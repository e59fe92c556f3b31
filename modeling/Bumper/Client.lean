import Bumper.Xml.Parse
import Bumper.Xml.Serialize
import Bumper.Py.Codec

/-!
# Bumper — sessions, the credentials store and the server state

One `XMPPAsyncClient` per accepted connection, identified here by the number of
its connection (`conn`). The server state `World` holds every client object
created, the registry `XMPPServer.clients` (a list of connection numbers, in
order of connection), the credentials store of `bumper.db`, the log of what is
done to transports (writes, closes, TLS upgrades), the asyncio tasks pending,
and the supply `uuid.uuid4()` draws from.

The operations every handler uses are here: `send`, `set_state` and
`_disconnect`, each with the small lemmas that let later proofs treat them as
opaque.
-/

namespace Bumper

open Xml

/-- `XMPPAsyncClient.IDLE` … `DISCONNECT`, the numbers `0` … `5`. -/
inductive State
  | idle
  | connect
  | init
  | bind
  | ready
  | disconnect
  deriving DecidableEq, Repr

/-- The number the source gives each state; `set_state` compares these. -/
def State.toNat : State → Nat
  | .idle => 0
  | .connect => 1
  | .init => 2
  | .bind => 3
  | .ready => 4
  | .disconnect => 5

/-- `XMPPAsyncClient.UNKNOWN`, `BOT`, `CONTROLLER`: the values of `self.type`. -/
inductive Kind
  | unknown
  | bot
  | controller
  deriving DecidableEq, Repr

/-- The fields of an `XMPPAsyncClient` that the handlers read or write. -/
structure Client where
  type : Kind
  state : State
  clientresource : String
  devclass : String
  bumperJid : String
  uid : String
  tlsUpgraded : Bool
  deriving DecidableEq, Repr

/-- `XMPPAsyncClient.__init__`. -/
def Client.new : Client := ⟨.unknown, .idle, "", "", "", "", false⟩

/-- `XMPPServer.server_id`. -/
def serverId : String := "ecouser.net"

/-- Modelled from the spec: `bumper.db`, which is not part of the source. §6 gives
its interface; what this module reads of a record is whether it exists and its
online flag (`xmpp_connection`). Bot records are keyed by `did`, client records
by `resource`. -/
structure Store where
  bots : String → Option Bool
  clients : String → Option Bool

namespace Store

/-- Modelled from the spec: `bot_add(uid, did, devclass, resource, company)`, an
idempotent upsert keyed by `did`; a new record is offline. -/
def botAdd (st : Store) (_uid did _devclass _resource _company : String) : Store :=
  { st with bots := fun d => if d = did then some ((st.bots d).getD false) else st.bots d }

/-- Modelled from the spec: `bot_get(did)` finds a record. -/
def botGet (st : Store) (did : String) : Bool := (st.bots did).isSome

/-- Modelled from the spec: `bot_set_xmpp(did, online)` on an existing record. -/
def botSetXmpp (st : Store) (did : String) (online : Bool) : Store :=
  { st with bots := fun d => if d = did then (st.bots d).map fun _ => online else st.bots d }

/-- Modelled from the spec: `client_add(userid, realm, resource)`, an idempotent
upsert keyed by `resource`; a new record is offline. -/
def clientAdd (st : Store) (_userid _realm resource : String) : Store :=
  { st with clients := fun r => if r = resource then some ((st.clients r).getD false)
                                else st.clients r }

/-- Modelled from the spec: `client_get(resource)` finds a record. -/
def clientGet (st : Store) (resource : String) : Bool := (st.clients resource).isSome

/-- Modelled from the spec: `client_set_xmpp(resource, online)` on an existing record. -/
def clientSetXmpp (st : Store) (resource : String) (online : Bool) : Store :=
  { st with clients := fun r => if r = resource then (st.clients r).map fun _ => online
                                else st.clients r }

@[simp] theorem botAdd_clients (st : Store) (u d dc r co : String) :
    (st.botAdd u d dc r co).clients = st.clients := rfl
@[simp] theorem botSetXmpp_clients (st : Store) (d : String) (b : Bool) :
    (st.botSetXmpp d b).clients = st.clients := rfl
@[simp] theorem clientAdd_bots (st : Store) (u rl r : String) : (st.clientAdd u rl r).bots = st.bots := rfl
@[simp] theorem clientSetXmpp_bots (st : Store) (r : String) (b : Bool) :
    (st.clientSetXmpp r b).bots = st.bots := rfl

@[simp] theorem clients_botSetXmpp_of_get (st : Store) (d : String) (b : Bool) :
    (if st.botGet d then st.botSetXmpp d b else st).clients = st.clients := by
  split <;> rfl

/-- Setting the flag of a record, if there is one, is the same as mapping it. -/
theorem clients_setXmpp_of_get (st : Store) (res : String) (b : Bool) (r : String) :
    (if st.clientGet res then st.clientSetXmpp res b else st).clients r =
      if r = res then (st.clients r).map (fun _ => b) else st.clients r := by
  unfold clientGet clientSetXmpp
  by_cases hr : r = res
  · subst hr; cases h : st.clients r <;> simp [h]
  · split <;> simp [hr]

theorem bots_setXmpp_of_get (st : Store) (d : String) (b : Bool) (e : String) :
    (if st.botGet d then st.botSetXmpp d b else st).bots e =
      if e = d then (st.bots e).map (fun _ => b) else st.bots e := by
  unfold botGet botSetXmpp
  by_cases he : e = d
  · subst he; cases h : st.bots e <;> simp [h]
  · split <;> simp [he]

end Store

/-- The configuration the handlers read: `bumper.use_auth`, `check_authcode` of
`bumper.db` (over its tokens table, which this module never writes), and whether
the certificate files load in `_handle_starttls`. -/
structure Config where
  useAuth : Bool
  checkAuthcode : String → String → Bool
  certsLoad : Bool

/-- What is done to a connection's transport. -/
inductive Effect
  /-- `transport.write(data.encode())` -/
  | write (conn : Nat) (data : String)
  /-- `transport.close()` -/
  | close (conn : Nat)
  /-- `loop.start_tls(transport, …)` -/
  | startTls (conn : Nat)
  /-- `connection_made` on an existing protocol: the transport is replaced. -/
  | replaceTransport (conn : Nat)
  deriving DecidableEq, Repr

/-- An asyncio task created and not finished, with where it is suspended. -/
inductive Task
  /-- `_handle_starttls`, not started -/
  | starttls (conn : Nat)
  /-- `_handle_starttls`, awaiting `loop.start_tls` -/
  | handshake (conn : Nat)
  /-- `schedule_ping(time)`, not started -/
  | ping (conn : Nat) (time : Nat)
  /-- `schedule_ping(time)`, awaiting `asyncio.sleep(time)` -/
  | pingSleep (conn : Nat) (time : Nat)
  deriving DecidableEq, Repr

/-- The server state. `sessions c` is the client object of connection `c`,
`clients` is `XMPPServer.clients`; `accepted` connections have been made and
`lost c` records `connection_lost`. -/
structure World where
  clients : List Nat
  sessions : Nat → Client
  store : Store
  effects : List Effect
  tasks : List Task
  uuids : Nat → String
  uuidNext : Nat
  accepted : Nat
  lost : Nat → Bool

namespace World

/-- Replace the client object of connection `c`. -/
def setClient (w : World) (c : Nat) (cl : Client) : World :=
  { w with sessions := fun d => if d = c then cl else w.sessions d }

/-- `client.send(data)` on connection `c`. -/
def send (w : World) (c : Nat) (data : String) : World :=
  { w with effects := w.effects ++ [.write c data] }

/-- The same text sent to each connection of `cs`, in order. -/
def sendAll (w : World) (cs : List Nat) (data : String) : World :=
  { w with effects := w.effects ++ cs.map (Effect.write · data) }

/-- Several texts sent to connection `c`, in order. -/
def sendList (w : World) (c : Nat) (data : List String) : World :=
  { w with effects := w.effects ++ data.map (Effect.write c) }

/-- `_disconnect`: both online flags of the session cleared, its transport closed. -/
def disconnect (w : World) (c : Nat) : World :=
  let cl := w.sessions c
  let st := if w.store.botGet cl.uid then w.store.botSetXmpp cl.uid false else w.store
  let st := if st.clientGet cl.clientresource then st.clientSetXmpp cl.clientresource false
    else st
  { w with store := st, effects := w.effects ++ [.close c] }

/-- `set_state(name)`: a move to a lower state raises inside the method's own
`try` and changes nothing; a move to `DISCONNECT` also disconnects. -/
def setState (w : World) (c : Nat) (s : State) : World :=
  if s.toNat < (w.sessions c).state.toNat then w
  else
    let w' := w.setClient c { w.sessions c with state := s }
    if s = .disconnect then w'.disconnect c else w'

@[simp] theorem setClient_sessions (w : World) (c : Nat) (cl : Client) (d : Nat) :
    (w.setClient c cl).sessions d = if d = c then cl else w.sessions d := rfl
@[simp] theorem setClient_clients (w : World) (c : Nat) (cl : Client) :
    (w.setClient c cl).clients = w.clients := rfl
@[simp] theorem setClient_effects (w : World) (c : Nat) (cl : Client) :
    (w.setClient c cl).effects = w.effects := rfl
@[simp] theorem setClient_store (w : World) (c : Nat) (cl : Client) :
    (w.setClient c cl).store = w.store := rfl
@[simp] theorem setClient_tasks (w : World) (c : Nat) (cl : Client) :
    (w.setClient c cl).tasks = w.tasks := rfl
@[simp] theorem send_sessions (w : World) (c : Nat) (s : String) :
    (w.send c s).sessions = w.sessions := rfl
@[simp] theorem send_clients (w : World) (c : Nat) (s : String) :
    (w.send c s).clients = w.clients := rfl
@[simp] theorem send_effects (w : World) (c : Nat) (s : String) :
    (w.send c s).effects = w.effects ++ [.write c s] := rfl
@[simp] theorem send_store (w : World) (c : Nat) (s : String) :
    (w.send c s).store = w.store := rfl
@[simp] theorem send_tasks (w : World) (c : Nat) (s : String) :
    (w.send c s).tasks = w.tasks := rfl
@[simp] theorem sendAll_sessions (w : World) (cs : List Nat) (s : String) :
    (w.sendAll cs s).sessions = w.sessions := rfl
@[simp] theorem sendAll_clients (w : World) (cs : List Nat) (s : String) :
    (w.sendAll cs s).clients = w.clients := rfl
@[simp] theorem sendAll_effects (w : World) (cs : List Nat) (s : String) :
    (w.sendAll cs s).effects = w.effects ++ cs.map (Effect.write · s) := rfl
@[simp] theorem sendAll_store (w : World) (cs : List Nat) (s : String) :
    (w.sendAll cs s).store = w.store := rfl
@[simp] theorem sendList_sessions (w : World) (c : Nat) (ss : List String) :
    (w.sendList c ss).sessions = w.sessions := rfl
@[simp] theorem sendList_clients (w : World) (c : Nat) (ss : List String) :
    (w.sendList c ss).clients = w.clients := rfl
@[simp] theorem sendList_store (w : World) (c : Nat) (ss : List String) :
    (w.sendList c ss).store = w.store := rfl
@[simp] theorem disconnect_sessions (w : World) (c : Nat) :
    (w.disconnect c).sessions = w.sessions := rfl
@[simp] theorem disconnect_clients (w : World) (c : Nat) :
    (w.disconnect c).clients = w.clients := rfl
@[simp] theorem disconnect_effects (w : World) (c : Nat) :
    (w.disconnect c).effects = w.effects ++ [.close c] := rfl

/-- What `set_state` can do: nothing, or set the state (and disconnect when the
new state is `DISCONNECT`). -/
theorem setState_cases (w : World) (c : Nat) (s : State) :
    (s.toNat < (w.sessions c).state.toNat ∧ w.setState c s = w) ∨
    ((w.sessions c).state.toNat ≤ s.toNat ∧ s ≠ .disconnect ∧
      w.setState c s = w.setClient c { w.sessions c with state := s }) ∨
    ((w.sessions c).state.toNat ≤ s.toNat ∧ s = .disconnect ∧
      w.setState c s = (w.setClient c { w.sessions c with state := s }).disconnect c) := by
  unfold setState
  by_cases h : s.toNat < (w.sessions c).state.toNat
  · exact .inl ⟨h, if_pos h⟩
  · rw [if_neg h]
    by_cases hd : s = .disconnect
    · exact .inr (.inr ⟨by omega, hd, if_pos hd⟩)
    · exact .inr (.inl ⟨by omega, hd, if_neg hd⟩)

@[simp] theorem setState_clients (w : World) (c : Nat) (s : State) :
    (w.setState c s).clients = w.clients := by
  rcases setState_cases w c s with ⟨-, h⟩ | ⟨-, -, h⟩ | ⟨-, -, h⟩ <;> simp [h]

/-- What `set_state` does to the client objects: only the state of `c`, and only
upwards. -/
theorem setState_sessions (w : World) (c : Nat) (s : State) (d : Nat) :
    (w.setState c s).sessions d =
      if d = c ∧ (w.sessions c).state.toNat ≤ s.toNat then { w.sessions c with state := s }
      else w.sessions d := by
  rcases setState_cases w c s with ⟨h, e⟩ | ⟨h, -, e⟩ | ⟨h, -, e⟩ <;> rw [e]
  · by_cases hd : d = c
    · subst hd; simp [Nat.not_le.2 h]
    · simp [hd]
  all_goals by_cases hd : d = c <;> simp [hd, h]

@[simp] theorem setState_accepted (w : World) (c : Nat) (s : State) :
    (w.setState c s).accepted = w.accepted := by
  rcases setState_cases w c s with ⟨-, h⟩ | ⟨-, -, h⟩ | ⟨-, -, h⟩ <;> rw [h] <;> rfl

@[simp] theorem setState_tasks (w : World) (c : Nat) (s : State) :
    (w.setState c s).tasks = w.tasks := by
  rcases setState_cases w c s with ⟨-, h⟩ | ⟨-, -, h⟩ | ⟨-, -, h⟩ <;> rw [h] <;> rfl

@[simp] theorem setState_lost (w : World) (c : Nat) (s : State) :
    (w.setState c s).lost = w.lost := by
  rcases setState_cases w c s with ⟨-, h⟩ | ⟨-, -, h⟩ | ⟨-, -, h⟩ <;> rw [h] <;> rfl

theorem setState_store_of_ne (w : World) (c : Nat) {s : State} (h : s ≠ .disconnect) :
    (w.setState c s).store = w.store := by
  rcases setState_cases w c s with ⟨-, e⟩ | ⟨-, -, e⟩ | ⟨-, hd, -⟩
  · rw [e]
  · rw [e]; rfl
  · exact absurd hd h

theorem setState_effects_of_ne (w : World) (c : Nat) {s : State} (h : s ≠ .disconnect) :
    (w.setState c s).effects = w.effects := by
  rcases setState_cases w c s with ⟨-, e⟩ | ⟨-, -, e⟩ | ⟨-, hd, -⟩
  · rw [e]
  · rw [e]; rfl
  · exact absurd hd h

/-- `set_state` changes no other session. -/
theorem setState_sessions_of_ne (w : World) {c d : Nat} (s : State) (h : d ≠ c) :
    (w.setState c s).sessions d = w.sessions d := by
  rcases setState_cases w c s with ⟨-, e⟩ | ⟨-, -, e⟩ | ⟨-, -, e⟩ <;> simp [e, h]

end World

end Bumper
