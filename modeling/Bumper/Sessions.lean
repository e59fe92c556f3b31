import Bumper.Acts
import Bumper.Tasks

/-!
# Bumper — sessions over whole runs

What holds of the sessions in every state a run reaches, and of every event from
such a state:

* `LiveInv` — a lost connection's session is `DISCONNECT` (`connection_lost`
  always finds it registered), a `READY` session has a `schedule_ping` loop
  pending (the loop runs until `DISCONNECT`), and every session satisfies
  `KindOk`;
* an event changes the client object of a connection only if it is an event of
  that connection.

`LiveInv.step` is one lemma per event, from `Acts` and `Local` for a chunk and
from the lemmas of `Bumper.Registry` and `Bumper.Tasks` for the other events.
-/

namespace Bumper

open Xml

/-! ## Ping loops -/

/-- The test `pingLoops` counts tasks with: a loop of connection `c`. -/
def Task.loopOf (c : Nat) : Task → Bool
  | .ping d _ => d == c
  | .pingSleep d _ => d == c
  | _ => false

theorem pingLoops_eq (w : World) (c : Nat) : pingLoops w c = w.tasks.countP (Task.loopOf c) := by
  unfold pingLoops Task.loopOf
  rfl

theorem pingLoops_mono {w w' : World} (h : w.tasks <+: w'.tasks) (c : Nat) :
    pingLoops w c ≤ pingLoops w' c := by
  rw [pingLoops_eq, pingLoops_eq]
  exact h.sublist.countP_le _

theorem pingLoops_pos {w : World} {c n : Nat} (h : Task.ping c n ∈ w.tasks) : 0 < pingLoops w c := by
  rw [pingLoops_eq]
  exact List.countP_pos_iff.2 ⟨_, h, by simp [Task.loopOf]⟩

/-- The task run is taken out of the list, and the others stay. -/
theorem perm_eraseIdx {l : List Task} {i : Nat} {t : Task} (h : l.get? i = some t) :
    l.Perm (t :: l.eraseIdx i) := by
  obtain ⟨hi, rfl⟩ := List.get?_eq_some.1 h
  exact (List.perm_cons_erase (List.get_mem l i hi)).trans (.cons _ (List.erase_getElem hi))

/-- A ping step of a connection not `DISCONNECT` schedules its sleep, and a sleep
its next ping: what the task was, its successors are, loop for loop. -/
theorem taskStep_loops (cfg : Config) (w : World) (t : Task) (ok : Bool) {c : Nat}
    (hc : (w.sessions c).state ≠ .disconnect) :
    (if t.loopOf c then 1 else 0) ≤ (taskStep cfg w t ok).2.countP (Task.loopOf c) := by
  cases t with
  | ping d n =>
    by_cases hd : d = c
    · subst hd
      simp [taskStep, hc, Task.loopOf]
    · simp [Task.loopOf, hd]
  | pingSleep d n => simp [taskStep, Task.loopOf, List.countP_cons]
  | _ => simp [Task.loopOf]

/-- **A ping loop outlives its step**: running a task leaves every connection not
`DISCONNECT` at least as many loops as it had. -/
theorem pingLoops_runTask (cfg : Config) (w : World) (i : Nat) (ok : Bool) {c : Nat}
    (hc : (w.sessions c).state ≠ .disconnect) : pingLoops w c ≤ pingLoops (runTask cfg w i ok) c := by
  unfold runTask
  split
  · exact le_rfl
  · rename_i t ht
    have := taskStep_loops cfg { w with tasks := w.tasks.eraseIdx i } t ok hc
    rw [pingLoops_eq, pingLoops_eq, (perm_eraseIdx ht).countP_eq, List.countP_append,
      (taskStep_tasks cfg _ t ok).1, List.countP_cons]
    exact Nat.add_le_add_left this _

/-- A task step changes a client object at most in its TLS flag, and only as the
step of a `_handle_starttls` task of its connection. -/
theorem runTask_session (cfg : Config) (w : World) (i : Nat) (ok : Bool) (c : Nat) :
    (runTask cfg w i ok).sessions c = w.sessions c ∨ (w.tasks.get? i = some (.starttls c) ∧
      (runTask cfg w i ok).sessions c = { w.sessions c with tlsUpgraded := true }) := by
  unfold runTask
  split
  · exact .inl rfl
  · rename_i t hti
    show (taskStep cfg _ t ok).1.sessions c = _ ∨ _ ∧ (taskStep cfg _ t ok).1.sessions c = _
    rcases taskStep_cases cfg { w with tasks := w.tasks.eraseIdx i } t ok with
      ⟨hs, -⟩ | ⟨c', rfl, -, hs, -⟩
    · exact .inl (congrFun hs c)
    · rw [hs]
      by_cases hc : c = c'
      · subst hc
        exact .inr ⟨hti, by simp⟩
      · exact .inl (by simp [hc])

/-! ## Connections lost -/

theorem State.toNat_le_disconnect (s : State) : s.toNat ≤ State.disconnect.toNat := by
  cases s <;> decide

/-- `connection_lost` on a registered connection: the `remove` finds it, and its
`set_state("DISCONNECT")` is never refused (no state is above it), so it closes
the transport. -/
theorem connectionLost_of_mem (w : World) {c : Nat} (h : c ∈ w.clients) :
    connectionLost w c =
      ({ w with clients := w.clients.erase c }.setClient c
        { w.sessions c with state := .disconnect }).disconnect c := by
  unfold connectionLost
  rw [if_pos h]
  rcases World.setState_cases { w with clients := w.clients.erase c } c .disconnect
    with ⟨hlt, -⟩ | ⟨-, hne, -⟩ | ⟨-, -, e⟩
  · exact absurd hlt (Nat.not_lt.2 (State.toNat_le_disconnect _))
  · exact absurd rfl hne
  · exact e

/-- A registered connection is open. -/
theorem Registry.isOpen_of_mem {w : World} (h : Registry w) {c : Nat} (hm : c ∈ w.clients) :
    w.isOpen c = true := by
  by_contra ho
  exact List.count_eq_zero.1 (by rw [h.count c, if_neg ho]) hm

/-! ## The sessions of a reachable state -/

/-- What holds of one session in every reachable state: once its connection is
lost it is `DISCONNECT`; while it is `READY` a ping loop runs for it; it
satisfies `KindOk`. -/
structure LiveAt (w : World) (c : Nat) : Prop where
  lost : w.lost c = true → (w.sessions c).state = .disconnect
  ready : (w.sessions c).state = .ready → 0 < pingLoops w c
  kind : KindOk (w.sessions c)

/-- `LiveAt` for every connection. -/
def LiveInv (w : World) : Prop := ∀ c, LiveAt w c

/-- A session left as it was, with the lost flag as it was and no fewer loops. -/
theorem LiveAt.of_eq {w w' : World} {c : Nat} (h : LiveAt w c) (hs : w'.sessions c = w.sessions c)
    (hl : w'.lost c = w.lost c) (ht : pingLoops w c ≤ pingLoops w' c) : LiveAt w' c where
  lost hc := hs ▸ h.lost (hl ▸ hc)
  ready hr := (h.ready (hs ▸ hr)).trans_le ht
  kind := hs ▸ h.kind

namespace LiveInv

variable {w : World}

theorem initial (st : Store) (uuids : Nat → String) : LiveInv (World.initial st uuids) := fun _ =>
  ⟨fun h => by simp [World.initial] at h, fun h => by simp [World.initial, Client.new] at h,
    kindOk_of_unknown rfl⟩

/-- `connection_made`: the new session is `CONNECT` and untyped, and its
connection was never lost. -/
theorem acceptConnection (h : LiveInv w) (hr : Registry w) :
    LiveInv (Bumper.acceptConnection w) := fun c => by
  by_cases hc : c = w.accepted
  · subst hc
    refine ⟨fun hl => absurd (hr.lost_lt _ hl) (lt_irrefl _), fun hs => ?_, kindOk_of_unknown ?_⟩
    · simp at hs
    · simp [Client.new]
  · exact (h c).of_eq (by simp [hc]) rfl le_rfl

/-- A chunk on an open connection: `Local` for the other sessions, `Acts` for
its own. -/
theorem dataReceived (h : LiveInv w) (cfg : Config) {me : Nat} (data : List UInt8)
    (ho : w.isOpen me = true) : LiveInv (Bumper.dataReceived cfg w me data) := fun c => by
  have hl := dataReceived_local cfg w me data
  have mono := pingLoops_mono hl.tasks c
  by_cases hc : c = me
  · subst hc
    have ha := dataReceived_acts cfg w c data
    refine ⟨fun hlost => ?_, fun hs => ?_, ha.kind (h c).kind⟩
    · rw [hl.lost] at hlost
      simp [World.isOpen, hlost] at ho
    · rcases ha.ready hs with hr | hp
      · exact ((h c).ready hr).trans_le mono
      · exact pingLoops_pos hp
  · exact (h c).of_eq (hl.others c hc) (by rw [hl.lost]) mono

/-- `connection_lost` on an open connection makes its session `DISCONNECT`. -/
theorem callConnectionLost (h : LiveInv w) (hr : Registry w) {me : Nat} (ho : w.isOpen me = true) :
    LiveInv (Bumper.callConnectionLost w me) := fun c => by
  rw [Bumper.callConnectionLost, connectionLost_of_mem w (hr.mem ho)]
  by_cases hc : c = me
  · subst hc
    exact ⟨fun _ => by simp, fun hs => by simp at hs,
      by simpa using (h c).kind.state_le (State.toNat_le_disconnect _)⟩
  · exact (h c).of_eq (by simp [hc]) (by simp [World.disconnect, World.setClient, hc]) le_rfl

/-- A task step keeps every state, and every ping loop of a session not
`DISCONNECT`. -/
theorem runTask (h : LiveInv w) (cfg : Config) (i : Nat) (ok : Bool) :
    LiveInv (Bumper.runTask cfg w i ok) := fun c => by
  obtain ⟨hst, -, -, hl⟩ := runTask_frame cfg w i ok
  have hk : KindOk ((Bumper.runTask cfg w i ok).sessions c) := by
    rcases runTask_session cfg w i ok c with e | ⟨-, e⟩ <;> rw [e]
    exacts [(h c).kind, (h c).kind]
  refine ⟨fun hlost => ?_, fun hs => ?_, hk⟩
  · rw [hst]
    exact (h c).lost (hl ▸ hlost)
  · rw [hst c] at hs
    exact ((h c).ready hs).trans_le (pingLoops_runTask cfg w i ok (by rw [hs]; decide))

/-- `XMPPServer.disconnect` writes the store and closes transports only. -/
theorem serverDisconnect (h : LiveInv w) : LiveInv (Bumper.serverDisconnect w) := by
  obtain ⟨st, he⟩ := foldl_disconnect w.clients w
  rw [Bumper.serverDisconnect, he]
  exact fun c => (h c).of_eq rfl rfl le_rfl

theorem step (h : LiveInv w) (hr : Registry w) (cfg : Config) (e : Event) :
    LiveInv (Bumper.step cfg w e) := by
  cases e with
  | accept => exact h.acceptConnection hr
  | data c chunk =>
    rw [Bumper.step]
    split
    · exact h.dataReceived cfg chunk ‹_›
    · exact h
  | lost c =>
    rw [Bumper.step]
    split
    · exact h.callConnectionLost hr ‹_›
    · exact h
  | task i ok => exact h.runTask cfg i ok
  | shutdown => exact h.serverDisconnect

end LiveInv

theorem Reachable.liveInv {cfg : Config} {st : Store} {uuids : Nat → String} {w : World}
    (h : Reachable cfg (World.initial st uuids) w) : LiveInv w := by
  induction h with
  | init => exact LiveInv.initial st uuids
  | step e hw ih => exact ih.step hw.registry cfg e

/-! ## The sessions of every run -/

/-- **A lost connection is gone.** In every run, a connection asyncio has called
`connection_lost` on is `DISCONNECT` and no longer in `XMPPServer.clients`. -/
theorem lost_connection_disconnected (cfg : Config) (st : Store) (uuids : Nat → String)
    (evs : List Event) (c : Nat) (h : (run cfg (World.initial st uuids) evs).lost c = true) :
    ((run cfg (World.initial st uuids) evs).sessions c).state = .disconnect ∧
      c ∉ (run cfg (World.initial st uuids) evs).clients := by
  have hw := reachable_run cfg (World.initial st uuids) evs
  refine ⟨(hw.liveInv c).lost h, fun hm => ?_⟩
  have := hw.registry.isOpen_of_mem hm
  simp [World.isOpen, h] at this

theorem accept_lost_disconnected :
    (run cfgOpen freshServer [.accept, .lost 0]).lost 0 = true ∧
      ((run cfgOpen freshServer [.accept, .lost 0]).sessions 0).state = .disconnect ∧
      0 ∉ (run cfgOpen freshServer [.accept, .lost 0]).clients :=
  have h : (run cfgOpen freshServer [.accept, .lost 0]).lost 0 = true := by decide
  ⟨h, lost_connection_disconnected cfgOpen _ _ [.accept, .lost 0] 0 h⟩

/-- **A `READY` session is kept alive.** In every run, a session in `READY` has a
`schedule_ping` loop pending: `_handle_session` starts one with the state, and
a loop ends only at a ping step that finds its session `DISCONNECT`. -/
theorem ready_session_has_ping_loop (cfg : Config) (st : Store) (uuids : Nat → String)
    (evs : List Event) (c : Nat) (h : ((run cfg (World.initial st uuids) evs).sessions c).state = .ready) :
    0 < pingLoops (run cfg (World.initial st uuids) evs) c :=
  ((reachable_run cfg (World.initial st uuids) evs).liveInv c).ready h

theorem controllerLogin_has_ping_loop :
    ((run cfgOpen freshServer controllerLogin).sessions 0).state = .ready ∧
      0 < pingLoops (run cfgOpen freshServer controllerLogin) 0 := by
  have h := controllerLogin_ready.1
  rw [freshServer] at h ⊢
  exact ⟨h, ready_session_has_ping_loop cfgOpen _ _ controllerLogin 0 h⟩

/-- **A typed session agrees with its stream header.** In every run, a session
that `_handle_sasl_auth` has typed is in `INIT` or later, and it is a bot exactly
when `_handle_connect` gave it a devclass. -/
theorem typed_session_consistent (cfg : Config) (st : Store) (uuids : Nat → String)
    (evs : List Event) (c : Nat) (h : ((run cfg (World.initial st uuids) evs).sessions c).type ≠ .unknown) :
    State.init.toNat ≤ ((run cfg (World.initial st uuids) evs).sessions c).state.toNat ∧
      (((run cfg (World.initial st uuids) evs).sessions c).type = .bot ↔
        ((run cfg (World.initial st uuids) evs).sessions c).devclass ≠ "") :=
  ((reachable_run cfg (World.initial st uuids) evs).liveInv c).kind h

/-- The controller `alice` once its `<auth>` is accepted. -/
theorem controllerAuth_consistent :
    ((run cfgOpen freshServer (controllerLogin.take 2)).sessions 0).type ≠ .unknown ∧
      State.init.toNat ≤ ((run cfgOpen freshServer (controllerLogin.take 2)).sessions 0).state.toNat ∧
      (((run cfgOpen freshServer (controllerLogin.take 2)).sessions 0).type = .bot ↔
        ((run cfgOpen freshServer (controllerLogin.take 2)).sessions 0).devclass ≠ "") := by
  have h : ((run cfgOpen freshServer (controllerLogin.take 2)).sessions 0).type ≠ .unknown := by
    simp only [controllerLogin, List.take, run, List.foldl_cons, List.foldl_nil, step,
      saslAuth_received _ _ _ "AGFsaWNlAHB3" rfl]
    decide
  rw [freshServer] at h ⊢
  exact ⟨h, typed_session_consistent cfgOpen _ _ _ 0 h⟩

/-- **Each event changes its own session only.** A chunk or a `connection_lost`
changes only the client object of its connection, an accept only the new one,
and a task only the client object of a `_handle_starttls` task's connection. -/
theorem session_changed_only_by_own_events (cfg : Config) (w : World) (e : Event) (c : Nat)
    (h : (step cfg w e).sessions c ≠ w.sessions c) :
    (∃ chunk, e = .data c chunk) ∨ e = .lost c ∨ (e = .accept ∧ c = w.accepted) ∨
      ∃ i ok, e = .task i ok ∧ w.tasks.get? i = some (.starttls c) := by
  cases e with
  | accept =>
    by_cases hc : c = w.accepted
    · exact .inr (.inr (.inl ⟨rfl, hc⟩))
    · exact absurd (by simp [step, hc]) h
  | data d chunk =>
    by_cases hd : d = c
    · exact .inl ⟨chunk, hd ▸ rfl⟩
    · refine absurd ?_ h
      rw [step]
      split
      · exact (dataReceived_local cfg w d chunk).others c (Ne.symm hd)
      · rfl
  | lost d =>
    by_cases hd : d = c
    · exact .inr (.inl (hd ▸ rfl))
    · refine absurd ?_ h
      rw [step]
      split
      · exact callConnectionLost_sessions w (Ne.symm hd)
      · rfl
  | task i ok =>
    rcases runTask_session cfg w i ok c with e | ⟨ht, -⟩
    · exact absurd e h
    · exact .inr (.inr (.inr ⟨i, ok, rfl, ht⟩))
  | shutdown => exact absurd (by simp [step, serverDisconnect_sessions]) h

theorem accept_changes_new_session :
    (step cfgOpen freshServer .accept).sessions 0 ≠ freshServer.sessions 0 ∧
      ((∃ chunk, Event.accept = .data 0 chunk) ∨ Event.accept = .lost 0 ∨
        (Event.accept = .accept ∧ 0 = freshServer.accepted) ∨
        ∃ i ok, Event.accept = .task i ok ∧ freshServer.tasks.get? i = some (.starttls 0)) :=
  have h : (step cfgOpen freshServer .accept).sessions 0 ≠ freshServer.sessions 0 := by decide
  ⟨h, session_changed_only_by_own_events cfgOpen freshServer .accept 0 h⟩

end Bumper
