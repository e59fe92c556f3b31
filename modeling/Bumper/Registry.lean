import Bumper.Frame

/-!
# Bumper — the registry and the order of states, over whole runs

Two laws of every run of the server from its initial state.

* `state_monotone` — the state of a session never decreases. Every change the
  handlers make to a client object keeps or raises its state (`Moves.state_le`),
  and `connection_made` writes `CONNECT` only into the fresh client object of a
  new connection, which is `IDLE` until then (`FreshBeyond`).
* `clients_registry` — `XMPPServer.clients` holds each connection that has been
  made and not lost exactly once, and no other (`Registry`). asyncio calls
  `connection_lost` only on an open connection, so its `clients.remove` never
  raises.

The TLS re-entry of `connection_made` is the `handshake` step of the
`_handle_starttls` task: it replaces the transport and touches neither the
registry nor the client object.
-/

namespace Bumper

/-! ## Moves never lower the state -/

theorem Move.state_le {cl cl' : Client} (h : Move cl cl') : cl.state.toNat ≤ cl'.state.toNat := by
  cases h with
  | setState h => exact h
  | bind b hb =>
    obtain ⟨jid, res, rfl, -⟩ := bound_eq_some hb
    split_ifs with hl
    · exact le_refl _
    · exact Nat.not_lt.1 hl
  | auth => exact le_refl _
  | kind => exact le_refl _
  | devclass => exact le_refl _
  | tls => exact le_refl _

theorem Moves.state_le {cl cl' : Client} (h : Moves cl cl') : cl.state.toNat ≤ cl'.state.toNat := by
  induction h with
  | refl => exact le_refl _
  | tail _ hm ih => exact ih.trans hm.state_le

/-! ## What tasks, lost connections and shutdown leave alone -/

/-- A task step writes no session's state and leaves the registry, the
connections made and the lost ones as they are. -/
theorem taskStep_frame (cfg : Config) (w : World) (t : Task) (ok : Bool) :
    (∀ c, ((taskStep cfg w t ok).1.sessions c).state = (w.sessions c).state) ∧
    (taskStep cfg w t ok).1.clients = w.clients ∧ (taskStep cfg w t ok).1.accepted = w.accepted ∧
    (taskStep cfg w t ok).1.lost = w.lost := by
  cases t with
  | starttls c' =>
    simp only [taskStep]
    split
    · exact ⟨fun _ => rfl, rfl, rfl, rfl⟩
    · split
      all_goals refine ⟨fun c => ?_, rfl, rfl, rfl⟩
      all_goals by_cases hc : c = c' <;> simp [hc]
  | handshake => simp only [taskStep]; split <;> exact ⟨fun _ => rfl, rfl, rfl, rfl⟩
  | ping => simp only [taskStep]; split <;> exact ⟨fun _ => rfl, rfl, rfl, rfl⟩
  | pingSleep => exact ⟨fun _ => rfl, rfl, rfl, rfl⟩

theorem runTask_frame (cfg : Config) (w : World) (i : Nat) (ok : Bool) :
    (∀ c, ((runTask cfg w i ok).sessions c).state = (w.sessions c).state) ∧
    (runTask cfg w i ok).clients = w.clients ∧ (runTask cfg w i ok).accepted = w.accepted ∧
    (runTask cfg w i ok).lost = w.lost := by
  unfold runTask
  split
  · exact ⟨fun _ => rfl, rfl, rfl, rfl⟩
  · exact taskStep_frame cfg _ _ ok

theorem callConnectionLost_sessions (w : World) {c d : Nat} (h : d ≠ c) :
    (callConnectionLost w c).sessions d = w.sessions d := by
  unfold callConnectionLost connectionLost
  split
  · exact World.setState_sessions_of_ne _ _ h
  · rfl

theorem callConnectionLost_accepted (w : World) (c : Nat) :
    (callConnectionLost w c).accepted = w.accepted := by
  unfold callConnectionLost connectionLost
  split
  · exact World.setState_accepted _ _ _
  · rfl

/-- `XMPPServer.disconnect` writes only the store, and closes the transports. -/
theorem foldl_disconnect (cs : List Nat) (w : World) :
    ∃ st, cs.foldl World.disconnect w =
      { w with store := st, effects := w.effects ++ cs.map Effect.close } := by
  induction cs generalizing w with
  | nil => exact ⟨w.store, by simp⟩
  | cons c cs ih =>
    obtain ⟨st, h⟩ := ih (w.disconnect c)
    exact ⟨st, by rw [List.foldl_cons, h]; simp [World.disconnect]⟩

/-! ## States never decrease -/

/-- The client objects of connections not made yet are still `IDLE`. -/
def FreshBeyond (w : World) : Prop := ∀ c, w.accepted ≤ c → (w.sessions c).state = .idle

theorem FreshBeyond.step {w : World} (h : FreshBeyond w) (cfg : Config) (e : Event) :
    FreshBeyond (Bumper.step cfg w e) := by
  intro c hc
  cases e with
  | accept =>
    rw [Bumper.step, acceptConnection_accepted] at hc
    rw [Bumper.step, acceptConnection_sessions, if_neg (by omega)]
    exact h c (by omega)
  | data c' chunk =>
    by_cases ho : w.isOpen c' = true <;> simp only [Bumper.step, ho, if_true, if_false] at hc ⊢
    · have hl := dataReceived_local cfg w c' chunk
      have hlt : c' < w.accepted := by simp [World.isOpen] at ho; exact ho.1
      rw [hl.accepted] at hc
      rw [hl.others c (by omega)]
      exact h c hc
    · exact h c hc
  | lost c' =>
    by_cases ho : w.isOpen c' = true <;> simp only [Bumper.step, ho, if_true, if_false] at hc ⊢
    · have hlt : c' < w.accepted := by simp [World.isOpen] at ho; exact ho.1
      rw [callConnectionLost_accepted] at hc
      rw [callConnectionLost_sessions w (by omega)]
      exact h c hc
    · exact h c hc
  | task i ok =>
    obtain ⟨hs, -, ha, -⟩ := runTask_frame cfg w i ok
    rw [Bumper.step, ha] at hc
    rw [Bumper.step, hs]
    exact h c hc
  | shutdown =>
    obtain ⟨st, he⟩ := foldl_disconnect w.clients w
    simp only [Bumper.step, serverDisconnect, he] at hc ⊢
    exact h c hc

theorem Reachable.freshBeyond {cfg : Config} {st : Store} {uuids : Nat → String} {w : World}
    (h : Reachable cfg (World.initial st uuids) w) : FreshBeyond w := by
  induction h with
  | init => exact fun _ _ => rfl
  | step e _ ih => exact ih.step cfg e

/-- One event raises or keeps the state of every session. -/
theorem FreshBeyond.state_le {w : World} (h : FreshBeyond w) (cfg : Config) (e : Event) (c : Nat) :
    (w.sessions c).state.toNat ≤ ((Bumper.step cfg w e).sessions c).state.toNat := by
  rcases step_session cfg w e c with hm | ⟨rfl, -⟩
  · exact hm.state_le
  · by_cases hc : c = w.accepted
    · rw [h c (le_of_eq hc.symm)]
      exact Nat.zero_le _
    · simp [Bumper.step, hc]

theorem FreshBeyond.run_state_le {cfg : Config} {w : World} (h : FreshBeyond w) (es : List Event)
    (c : Nat) : (w.sessions c).state.toNat ≤ ((run cfg w es).sessions c).state.toNat := by
  induction es generalizing w with
  | nil => exact le_refl _
  | cons e es ih => exact (h.state_le cfg e c).trans (ih (h.step cfg e))

/-- **The state of a session never decreases** over a run: at every later point
of the run it is the same or higher (in the order `IDLE` < `CONNECT` < `INIT` <
`BIND` < `READY` < `DISCONNECT`). -/
theorem state_monotone (cfg : Config) (st : Store) (uuids : Nat → String) (evs evs' : List Event)
    (c : Nat) :
    ((run cfg (World.initial st uuids) evs).sessions c).state.toNat ≤
      ((run cfg (World.initial st uuids) (evs ++ evs')).sessions c).state.toNat := by
  rw [run_append]
  exact (reachable_run cfg _ evs).freshBeyond.run_state_le evs' c

/-! ## The registry -/

/-- `XMPPServer.clients` counts each open connection once and no other; only
connections already made have been lost. -/
structure Registry (w : World) : Prop where
  count : ∀ c, w.clients.count c = if w.isOpen c then 1 else 0
  lost_lt : ∀ c, w.lost c = true → c < w.accepted

namespace Registry

variable {w : World}

theorem of_eq (h : Registry w) {w' : World} (hc : w'.clients = w.clients)
    (ha : w'.accepted = w.accepted) (hl : w'.lost = w.lost) : Registry w' where
  count c := by simp only [World.isOpen, hc, ha, hl]; exact h.count c
  lost_lt c := by rw [ha, hl]; exact h.lost_lt c

/-- An open connection is registered. -/
theorem mem (h : Registry w) {c : Nat} (ho : w.isOpen c = true) : c ∈ w.clients :=
  List.count_pos_iff.1 (by rw [h.count c, if_pos ho]; exact Nat.one_pos)

/-- `connection_made` registers the client of the transport asyncio has just
accepted. -/
theorem acceptConnection (h : Registry w) : Registry (acceptConnection w) where
  count c := by
    have hc := h.count c
    simp only [Bumper.acceptConnection, Bumper.connectionMade, World.isOpen, List.count_append,
      List.count_singleton'] at hc ⊢
    by_cases hca : c = w.accepted
    · subst hca
      have hl : w.lost w.accepted = false := by
        cases hl : w.lost w.accepted
        · rfl
        · exact absurd (h.lost_lt _ hl) (lt_irrefl _)
      simp [hc, hl]
    · have hlt : c < w.accepted + 1 ↔ c < w.accepted := by omega
      simp [hc, hlt, Ne.symm hca]
  lost_lt c hl := Nat.lt_succ_of_lt (h.lost_lt c hl)

/-- `connection_lost` on an open connection: the `remove` finds it, and
`set_state("DISCONNECT")` touches no part of the registry. -/
theorem callConnectionLost (h : Registry w) {c : Nat} (ho : w.isOpen c = true) :
    Registry (Bumper.callConnectionLost w c) := by
  have hlt : c < w.accepted := by simp [World.isOpen] at ho; exact ho.1
  have hw : Registry { w with clients := w.clients.erase c, lost := fun d => d = c || w.lost d } := by
    refine ⟨fun d => ?_, fun d hd => ?_⟩
    · have hd := h.count d
      simp only [World.isOpen] at hd ho ⊢
      by_cases hdc : d = c
      · subst hdc
        simp [List.count_erase_self, hd, ho]
      · simp [List.count_erase_of_ne hdc, hdc, hd]
    · simp only [Bool.or_eq_true, decide_eq_true_eq] at hd
      rcases hd with rfl | hd
      · exact hlt
      · exact h.lost_lt d hd
  unfold Bumper.callConnectionLost Bumper.connectionLost
  rw [if_pos (h.mem ho)]
  exact hw.of_eq (World.setState_clients _ _ _) (World.setState_accepted _ _ _) rfl

theorem step {cfg : Config} (h : Registry w) (e : Event) : Registry (Bumper.step cfg w e) := by
  cases e with
  | accept => exact h.acceptConnection
  | data c chunk =>
    rw [Bumper.step]
    split
    · have hl := dataReceived_local cfg w c chunk
      exact h.of_eq hl.clients hl.accepted hl.lost
    · exact h
  | lost c =>
    rw [Bumper.step]
    split
    · exact h.callConnectionLost ‹_›
    · exact h
  | task i ok =>
    obtain ⟨-, hc, ha, hl⟩ := runTask_frame cfg w i ok
    exact h.of_eq hc ha hl
  | shutdown =>
    obtain ⟨st, he⟩ := foldl_disconnect w.clients w
    show Registry (serverDisconnect w)
    rw [serverDisconnect, he]
    exact h.of_eq rfl rfl rfl

end Registry

theorem Reachable.registry {cfg : Config} {st : Store} {uuids : Nat → String} {w : World}
    (h : Reachable cfg (World.initial st uuids) w) : Registry w := by
  induction h with
  | init => exact ⟨fun _ => by simp [World.initial, World.isOpen], fun _ h => by simp [World.initial] at h⟩
  | step e _ ih => exact ih.step e

/-- **The registry.** In every run from the initial state, `XMPPServer.clients`
holds each connection that has been made and not lost exactly once and no other;
so every connection asyncio can still call `connection_lost` on is registered, and
its `clients.remove` does not raise. -/
theorem clients_registry (cfg : Config) (st : Store) (uuids : Nat → String) (evs : List Event) :
    (∀ c, (run cfg (World.initial st uuids) evs).clients.count c =
      if (run cfg (World.initial st uuids) evs).isOpen c then 1 else 0) ∧
    ∀ c, (run cfg (World.initial st uuids) evs).isOpen c = true →
      c ∈ (run cfg (World.initial st uuids) evs).clients :=
  have h := (reachable_run cfg _ evs).registry
  ⟨h.count, fun _ => h.mem⟩

end Bumper
