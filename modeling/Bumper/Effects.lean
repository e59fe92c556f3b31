import Bumper.Sessions

/-!
# Bumper — the effects of every run

Where the server's effects go, and in which order, in every run from its
initial state:

* `effects_act_on_open_connections` — each effect of an event is on a
  connection open when the event happens, but for the steps of a
  `_handle_starttls` task, which do not look at the connection;
* `tls_effects_ordered` — on each connection, `<proceed/>` is written before
  `loop.start_tls` is called, and the transport is replaced (the re-entry of
  `connection_made`) only after a `start_tls` (`TlsOrder`);
* `tls_flag_matches_log` — the TLS flag of a session says exactly whether
  `<proceed/>` and `start_tls` have been sent for its connection (`TlsExact`);
* `serverDisconnect_closed_form` — what the loop of `XMPPServer.disconnect` does
  as a whole.

The laws over runs rest on `Acts`: a chunk only writes and closes, keeps the TLS
flag of its session, and creates only `_handle_starttls` and `schedule_ping(30)`
tasks; each is an invariant with one lemma per event.
-/

namespace Bumper

/-! ## Where the effects of an event go -/

/-- The effects of a task step are on the task's connection: those of a ping
step only while its session is not `DISCONNECT`, those of a `_handle_starttls`
step whatever the session. -/
theorem taskStep_effects (cfg : Config) (w : World) (t : Task) (ok : Bool) :
    ∃ es, (taskStep cfg w t ok).1.effects = w.effects ++ es ∧ ∀ e ∈ es, e.conn = t.conn ∧
      (t = .starttls t.conn ∨ t = .handshake t.conn ∨ (w.sessions t.conn).state ≠ .disconnect) := by
  cases t with
  | starttls c =>
    simp only [taskStep]
    split
    · exact ⟨[], by simp, by simp⟩
    · split
      · exact ⟨[.write c proceedTls, .startTls c], by simp [proceedTls],
          by simp [Effect.conn, Task.conn]⟩
      · exact ⟨[.write c proceedTls], by simp [proceedTls], by simp [Effect.conn, Task.conn]⟩
  | handshake c =>
    simp only [taskStep]
    split
    · exact ⟨[.replaceTransport c], rfl, by simp [Effect.conn, Task.conn]⟩
    · exact ⟨[], by simp, by simp⟩
  | ping c n =>
    simp only [taskStep]
    split
    · exact ⟨[], by simp, by simp⟩
    · exact ⟨[.write c _], rfl, by simpa [Effect.conn, Task.conn]⟩
  | pingSleep => exact ⟨[], by simp [taskStep], by simp⟩

/-- Event `e` runs a step of a `_handle_starttls` task of connection `c`. -/
def TlsStep (w : World) (e : Event) (c : Nat) : Prop :=
  ∃ i ok, e = .task i ok ∧ (w.tasks.get? i = some (.starttls c) ∨ w.tasks.get? i = some (.handshake c))

/-- From a state where the three invariants hold, every effect of one event is on
a connection open before it, or is a step of a `_handle_starttls` task. -/
theorem step_effects_open {w : World} (h : LiveInv w) (hr : Registry w) (ht : TlsInv w)
    (cfg : Config) (e : Event) :
    ∃ es, (step cfg w e).effects = w.effects ++ es ∧
      ∀ eff ∈ es, w.isOpen eff.conn = true ∨ TlsStep w e eff.conn := by
  cases e with
  | accept => exact ⟨[], (List.append_nil _).symm, by simp⟩
  | data c chunk =>
    rw [step]
    split
    · obtain ⟨es, he, ha⟩ := (dataReceived_acts cfg w c chunk).effects
      exact ⟨es, he, fun eff hm => .inl ((ha eff hm).1.elim (fun hc => hc ▸ ‹_›) hr.isOpen_of_mem)⟩
    · exact ⟨[], (List.append_nil _).symm, by simp⟩
  | lost c =>
    rw [step]
    split
    · rename_i ho
      rw [callConnectionLost, connectionLost_of_mem w (hr.mem ho)]
      exact ⟨[.close c], by simp, by simp [Effect.conn, ho]⟩
    · exact ⟨[], (List.append_nil _).symm, by simp⟩
  | task i ok =>
    show ∃ es, (runTask cfg w i ok).effects = _ ∧ _
    unfold runTask
    split
    · exact ⟨[], (List.append_nil _).symm, by simp⟩
    · rename_i t hti
      obtain ⟨es, he, ha⟩ := taskStep_effects cfg { w with tasks := w.tasks.eraseIdx i } t ok
      refine ⟨es, he, fun eff hm => ?_⟩
      obtain ⟨hc, htls | htls | hd⟩ := ha eff hm <;> rw [hc]
      · exact .inr ⟨i, ok, rfl, .inl (htls ▸ hti)⟩
      · exact .inr ⟨i, ok, rfl, .inr (htls ▸ hti)⟩
      · have hlt := ht.tasks t (List.get?_mem hti)
        refine .inl ?_
        cases hl : w.lost t.conn
        · simp [World.isOpen, hlt, hl]
        · exact absurd ((h _).lost hl) hd
  | shutdown =>
    obtain ⟨st, he⟩ := foldl_disconnect w.clients w
    show ∃ es, (serverDisconnect w).effects = _ ∧ _
    rw [serverDisconnect, he]
    refine ⟨_, rfl, fun eff hm => ?_⟩
    obtain ⟨c, hc, rfl⟩ := List.mem_map.1 hm
    exact .inl (hr.isOpen_of_mem hc)

/-- **The server acts only on open connections.** In every run from the initial
state, each effect of the next event (a write, a close, a `start_tls`, a
transport replaced) is on a connection that is open when the event happens:
made, and not lost. The one exception is a `_handle_starttls` task, which writes
`<proceed/>`, calls `start_tls` and replaces the transport without looking at
the connection, also after it is lost. -/
theorem effects_act_on_open_connections (cfg : Config) (st : Store) (uuids : Nat → String)
    (evs : List Event) (e : Event) :
    ∃ es, (step cfg (run cfg (World.initial st uuids) evs) e).effects =
        (run cfg (World.initial st uuids) evs).effects ++ es ∧
      ∀ eff ∈ es, (run cfg (World.initial st uuids) evs).isOpen eff.conn = true ∨
        TlsStep (run cfg (World.initial st uuids) evs) e eff.conn :=
  have hw := reachable_run cfg (World.initial st uuids) evs
  step_effects_open hw.liveInv hw.registry hw.tlsInv cfg e

/-! ## The order of a STARTTLS -/

/-- Every `b` of the log `l` has an `a` before it. -/
def Precedes (a b : Effect) (l : List Effect) : Prop := ∀ l₁ l₂, l = l₁ ++ b :: l₂ → a ∈ l₁

namespace Precedes

variable {a b : Effect} {l : List Effect}

theorem nil : Precedes a b [] := fun l₁ l₂ h => by simp at h

/-- A log extended: each new `b` has an `a` before it, in the old log or among
the new effects. -/
theorem append (h : Precedes a b l) {es : List Effect}
    (hes : ∀ m₁ m₂, es = m₁ ++ b :: m₂ → a ∈ l ++ m₁) : Precedes a b (l ++ es) := by
  intro l₁ l₂ heq
  rcases List.append_eq_append_iff.1 heq with ⟨m, rfl, hm⟩ | ⟨m, rfl, hm⟩
  · exact hes m l₂ hm
  · cases m with
    | nil => simpa using hes [] l₂ (by simpa using hm.symm)
    | cons x m =>
      simp only [List.cons_append, List.cons.injEq] at hm
      exact h l₁ m (by rw [hm.1])

theorem append_of_not_mem (h : Precedes a b l) {es : List Effect} (hb : b ∉ es) :
    Precedes a b (l ++ es) :=
  h.append fun _ _ he => absurd (he ▸ List.mem_append_right _ (List.mem_cons_self _ _)) hb

theorem append_of_mem (h : Precedes a b l) {es : List Effect} (ha : a ∈ l) : Precedes a b (l ++ es) :=
  h.append fun _ _ _ => List.mem_append_left _ ha

theorem append_pair (h : Precedes a b l) (hab : a ≠ b) : Precedes a b (l ++ [a, b]) :=
  h.append fun m₁ m₂ he => by
    rcases m₁ with _ | ⟨x, _ | ⟨y, m₁⟩⟩ <;> simp at he ⊢
    · exact absurd he.1 hab
    · exact .inr he.1

end Precedes

/-- On each connection, every `start_tls` follows a `<proceed/>` and every
transport replaced follows a `start_tls`; so does every pending handshake task. -/
structure TlsOrder (w : World) : Prop where
  proceed : ∀ c, Precedes (.write c proceedTls) (.startTls c) w.effects
  replace : ∀ c, Precedes (.startTls c) (.replaceTransport c) w.effects
  handshake : ∀ c, .handshake c ∈ w.tasks → .startTls c ∈ w.effects

namespace TlsOrder

variable {w w' : World}

/-- Effects `es` appended that keep both orders, and handshake tasks that are old
ones or follow a `start_tls` of `es`. -/
theorem extend (h : TlsOrder w) {es : List Effect} (he : w'.effects = w.effects ++ es)
    (hp : ∀ c, Precedes (.write c proceedTls) (.startTls c) (w.effects ++ es))
    (hr : ∀ c, Precedes (.startTls c) (.replaceTransport c) (w.effects ++ es))
    (ht : ∀ c, .handshake c ∈ w'.tasks → .handshake c ∈ w.tasks ∨ .startTls c ∈ es) :
    TlsOrder w' where
  proceed c := he ▸ hp c
  replace c := he ▸ hr c
  handshake c hc := he ▸ (ht c hc).elim (fun ho => List.mem_append_left _ (h.handshake c ho))
    (List.mem_append_right _)

/-- Writes and closes appended, and no new handshake task. -/
theorem of_sends (h : TlsOrder w) {es : List Effect} (he : w'.effects = w.effects ++ es)
    (hes : ∀ e ∈ es, e.isSend = true) (ht : ∀ c, .handshake c ∈ w'.tasks → .handshake c ∈ w.tasks) :
    TlsOrder w' :=
  h.extend he (fun c => (h.proceed c).append_of_not_mem fun hm => by simpa [Effect.isSend] using hes _ hm)
    (fun c => (h.replace c).append_of_not_mem fun hm => by simpa [Effect.isSend] using hes _ hm)
    fun c hc => .inl (ht c hc)

theorem of_eq (h : TlsOrder w) (he : w'.effects = w.effects)
    (ht : ∀ c, .handshake c ∈ w'.tasks → .handshake c ∈ w.tasks) : TlsOrder w' :=
  h.of_sends (he.trans (List.append_nil _).symm) (by simp) ht

/-- A task step: `_handle_starttls` writes `<proceed/>` before it calls
`start_tls` and creates the handshake, and the handshake replaces the transport
of a connection whose `start_tls` is in the log. -/
theorem taskStep (h : TlsOrder w) (cfg : Config) (t : Task) (ok : Bool)
    (hh : ∀ c, t = .handshake c → .startTls c ∈ w.effects) :
    TlsOrder { (Bumper.taskStep cfg w t ok).1 with
      tasks := (Bumper.taskStep cfg w t ok).1.tasks ++ (Bumper.taskStep cfg w t ok).2 } := by
  cases t with
  | starttls c =>
    simp only [Bumper.taskStep]
    split
    · exact h.of_eq rfl (by simp)
    · split
      · refine h.extend (show _ = w.effects ++ [.write c proceedTls, .startTls c] by simp [proceedTls])
          (fun c' => ?_) (fun c' => (h.replace c').append_of_not_mem (by simp)) (fun c' hc' => ?_)
        · by_cases hc : c' = c
          · subst hc
            exact (h.proceed c').append_pair (by simp)
          · exact (h.proceed c').append_of_not_mem (by simp [hc])
        · simp only [World.send_tasks, World.setClient_tasks, List.append_nil, List.mem_append,
            List.mem_singleton, Task.handshake.injEq] at hc'
          exact hc'.imp_right fun hc => by simp [hc]
      · exact h.of_sends (show _ = w.effects ++ [.write c proceedTls] by simp [proceedTls])
          (by simp [Effect.isSend]) (by simp)
  | handshake c =>
    simp only [Bumper.taskStep]
    split
    · refine h.extend rfl (fun c' => (h.proceed c').append_of_not_mem (by simp)) (fun c' => ?_)
        (fun c' hc' => .inl (by simpa using hc'))
      by_cases hc : c' = c
      · subst hc
        exact (h.replace c').append_of_mem (hh c' rfl)
      · exact (h.replace c').append_of_not_mem (by simp [hc])
    · exact h.of_eq rfl (by simp)
  | ping c n =>
    simp only [Bumper.taskStep]
    split
    · exact h.of_eq rfl (by simp)
    · exact h.of_sends rfl (by simp [Effect.isSend]) (by simp)
  | pingSleep c n => exact h.of_eq rfl (by simp [Bumper.taskStep])

theorem runTask (h : TlsOrder w) (cfg : Config) (i : Nat) (ok : Bool) :
    TlsOrder (Bumper.runTask cfg w i ok) := by
  unfold Bumper.runTask
  split
  · exact h
  · rename_i t hti
    have hu : TlsOrder { w with tasks := w.tasks.eraseIdx i } :=
      h.of_eq rfl fun _ hc => List.mem_of_mem_eraseIdx hc
    exact hu.taskStep cfg t ok fun c ht => h.handshake c (ht ▸ List.get?_mem hti)

theorem step (h : TlsOrder w) (cfg : Config) (e : Event) : TlsOrder (Bumper.step cfg w e) := by
  cases e with
  | accept => exact h.of_eq rfl fun _ hc => hc
  | data c chunk =>
    rw [Bumper.step]
    split
    · have ha := dataReceived_acts cfg w c chunk
      obtain ⟨es, he, hes⟩ := ha.effects
      obtain ⟨ts, hts, hta⟩ := ha.tasks
      refine h.of_sends he (fun e he => (hes e he).2) fun c' hc' => ?_
      rw [hts] at hc'
      rcases List.mem_append.1 hc' with hc' | hc'
      · exact hc'
      · rcases hta _ hc' with h' | h' <;> cases h'
    · exact h
  | lost c =>
    rw [Bumper.step]
    split
    · by_cases hm : c ∈ w.clients
      · rw [callConnectionLost, connectionLost_of_mem w hm]
        exact h.of_sends (show _ = w.effects ++ [.close c] by simp) (by simp [Effect.isSend])
          fun _ hc => by simpa using hc
      · unfold callConnectionLost connectionLost
        rw [if_neg hm]
        exact h.of_eq rfl fun _ hc => hc
    · exact h
  | task i ok => exact h.runTask cfg i ok
  | shutdown =>
    obtain ⟨st, he⟩ := foldl_disconnect w.clients w
    show TlsOrder (serverDisconnect w)
    rw [serverDisconnect, he]
    exact h.of_sends rfl (fun e he => by obtain ⟨_, -, rfl⟩ := List.mem_map.1 he; rfl) fun _ hc => hc

end TlsOrder

theorem Reachable.tlsOrder {cfg : Config} {st : Store} {uuids : Nat → String} {w : World}
    (h : Reachable cfg (World.initial st uuids) w) : TlsOrder w := by
  induction h with
  | init => exact ⟨fun _ => .nil, fun _ => .nil, fun _ h => by simp [World.initial] at h⟩
  | step e _ ih => exact ih.step cfg e

/-- **STARTTLS in order.** In every run from the initial state, on every
connection, each `loop.start_tls` comes after a `<proceed/>` written to it, and
each replaced transport (the re-entry of `connection_made` once the handshake
succeeds) comes after a `loop.start_tls` for it. -/
theorem tls_effects_ordered (cfg : Config) (st : Store) (uuids : Nat → String) (evs : List Event)
    (c : Nat) :
    Precedes (.write c proceedTls) (.startTls c) (run cfg (World.initial st uuids) evs).effects ∧
      Precedes (.startTls c) (.replaceTransport c) (run cfg (World.initial st uuids) evs).effects :=
  have h := (reachable_run cfg (World.initial st uuids) evs).tlsOrder
  ⟨h.proceed c, h.replace c⟩

/-! ## The TLS flag and the log -/

theorem connectionLost_tls (w : World) (c d : Nat) :
    ((connectionLost w c).sessions d).tlsUpgraded = (w.sessions d).tlsUpgraded := by
  unfold connectionLost
  split
  · rw [World.setState_sessions]
    split
    · next h => obtain ⟨rfl, -⟩ := h; rfl
    · rfl
  · rfl

/-- The TLS flag of a session is set only together with a `<proceed/>` to it and,
when the certificates load, a `start_tls`; and without the certificates there is
no `start_tls` at all. -/
structure TlsExact (cfg : Config) (w : World) : Prop where
  proceed : ∀ c, (w.sessions c).tlsUpgraded = true → .write c proceedTls ∈ w.effects
  startTls : ∀ c, (w.sessions c).tlsUpgraded = true → cfg.certsLoad = true → .startTls c ∈ w.effects
  noStart : cfg.certsLoad = false → ∀ c, .startTls c ∉ w.effects

namespace TlsExact

variable {cfg : Config} {w w' : World}

/-- No flag set, and effects appended that write no `<proceed/>` and call no
`start_tls`. -/
theorem of_quiet (h : TlsExact cfg w)
    (hs : ∀ c, (w'.sessions c).tlsUpgraded = true → (w.sessions c).tlsUpgraded = true)
    (he : ∃ es, w'.effects = w.effects ++ es ∧ ∀ e ∈ es, e.isTls = false) : TlsExact cfg w' := by
  obtain ⟨es, he, hq⟩ := he
  refine ⟨fun c hc => ?_, fun c hc hl => ?_, fun hl c hm => ?_⟩ <;> rw [he] at *
  · exact List.mem_append_left _ (h.proceed c (hs c hc))
  · exact List.mem_append_left _ (h.startTls c (hs c hc) hl)
  · rcases List.mem_append.1 hm with hm | hm
    · exact h.noStart hl c hm
    · exact absurd (hq _ hm) (by simp [Effect.isTls])

theorem runTask (h : TlsExact cfg w) (i : Nat) (ok : Bool) : TlsExact cfg (Bumper.runTask cfg w i ok) := by
  unfold Bumper.runTask
  split
  · exact h
  · rename_i t _
    rcases taskStep_cases cfg { w with tasks := w.tasks.eraseIdx i } t ok with
      ⟨hs, hq⟩ | ⟨c, -, -, hs, he⟩
    · exact h.of_quiet (fun c hc => by rwa [hs] at hc) hq
    · refine ⟨fun c' hc => ?_, fun c' hc hl => ?_, fun hl c' hm => ?_⟩ <;> rw [he, hs] at *
      · by_cases hc' : c' = c
        · simp [hc']
        · exact List.mem_append_left _ (h.proceed c' (by simpa [hc'] using hc))
      · by_cases hc' : c' = c
        · simp [hc', hl]
        · exact List.mem_append_left _ (h.startTls c' (by simpa [hc'] using hc) hl)
      · simp only [hl, List.mem_append, List.mem_cons, List.not_mem_nil] at hm
        exact h.noStart hl c' (hm.resolve_right (by simp))

theorem step (h : TlsExact cfg w) (e : Event) : TlsExact cfg (Bumper.step cfg w e) := by
  cases e with
  | accept =>
    refine h.of_quiet (fun c hc => ?_) ⟨[], (List.append_nil _).symm, by simp⟩
    by_cases hca : c = w.accepted
    · simp [Bumper.step, hca, Client.new] at hc
    · simpa [Bumper.step, hca] using hc
  | data c chunk =>
    rw [Bumper.step]
    split
    · have hl := dataReceived_local cfg w c chunk
      refine h.of_quiet (fun d hd => ?_) (dataReceived_quiet cfg w c chunk).effects
      by_cases hdc : d = c
      · rwa [hdc, (dataReceived_acts cfg w c chunk).tls, ← hdc] at hd
      · rwa [hl.others d hdc] at hd
    · exact h
  | lost c =>
    rw [Bumper.step]
    split
    · exact h.of_quiet (fun d hd => by rwa [callConnectionLost, connectionLost_tls] at hd)
        (connectionLost_quiet w c).effects
    · exact h
  | task i ok => exact h.runTask i ok
  | shutdown =>
    obtain ⟨st, he⟩ := foldl_disconnect w.clients w
    show TlsExact cfg (serverDisconnect w)
    rw [serverDisconnect, he]
    exact h.of_quiet (fun _ hc => hc) ⟨_, rfl, fun e he => by obtain ⟨_, -, rfl⟩ := List.mem_map.1 he; rfl⟩

end TlsExact

theorem Reachable.tlsExact {cfg : Config} {st : Store} {uuids : Nat → String} {w : World}
    (h : Reachable cfg (World.initial st uuids) w) : TlsExact cfg w := by
  induction h with
  | init => exact ⟨fun _ h => by simp [World.initial, Client.new] at h,
      fun _ h => by simp [World.initial, Client.new] at h, fun _ _ h => by simp [World.initial] at h⟩
  | step e _ ih => exact ih.step e

/-- **The TLS flag records the log.** In every run from the initial state, the
`TLSUpgraded` flag of a session says exactly how often `<proceed/>` has been
written to its connection (once if set, never if not), and how often
`loop.start_tls` has been called for it: as often, when the certificates load,
and never otherwise. -/
theorem tls_flag_matches_log (cfg : Config) (st : Store) (uuids : Nat → String) (evs : List Event)
    (c : Nat) :
    (run cfg (World.initial st uuids) evs).effects.count (.write c proceedTls) =
        ((run cfg (World.initial st uuids) evs).sessions c).tlsUpgraded.toNat ∧
      (run cfg (World.initial st uuids) evs).effects.count (.startTls c) =
        if cfg.certsLoad then ((run cfg (World.initial st uuids) evs).sessions c).tlsUpgraded.toNat
        else 0 := by
  have hw := reachable_run cfg (World.initial st uuids) evs
  have hi := hw.tlsInv
  have hx := hw.tlsExact
  refine ⟨le_antisymm (hi.proceed c) ?_, ?_⟩
  · cases hf : ((run cfg (World.initial st uuids) evs).sessions c).tlsUpgraded
    · exact Nat.zero_le _
    · exact List.count_pos_iff.2 (hx.proceed c hf)
  · cases hl : cfg.certsLoad
    · exact List.count_eq_zero.2 (hx.noStart hl c)
    · refine le_antisymm (hi.startTls c) ?_
      cases hf : ((run cfg (World.initial st uuids) evs).sessions c).tlsUpgraded
      · exact Nat.zero_le _
      · exact List.count_pos_iff.2 (hx.startTls c hf hl)

/-! ## Shutdown -/

attribute [ext] Store

theorem Store.bots_clientSetXmpp_of_get (st : Store) (r : String) (b : Bool) :
    (if st.clientGet r then st.clientSetXmpp r b else st).bots = st.bots := by
  split <;> rfl

/-- `_disconnect` takes the bot record of the session's uid and the client record
of its resource offline, where they exist. -/
theorem World.disconnect_store (w : World) (c : Nat) :
    (w.disconnect c).store =
      ⟨fun d => if (w.sessions c).uid = d then (w.store.bots d).map (fun _ => false) else w.store.bots d,
       fun r => if (w.sessions c).clientresource = r then (w.store.clients r).map (fun _ => false)
         else w.store.clients r⟩ := by
  simp only [World.disconnect]
  ext1
  · funext d
    rw [Store.bots_clientSetXmpp_of_get, Store.bots_setXmpp_of_get]
    simp only [eq_comm]
  · funext r
    rw [Store.clients_setXmpp_of_get, Store.clients_botSetXmpp_of_get]
    simp only [eq_comm]

/-- `_disconnect` on each connection of `cs` in turn. -/
theorem foldl_disconnect_eq (cs : List Nat) (w : World) :
    cs.foldl World.disconnect w = { w with
      store := ⟨fun d => if ∃ c ∈ cs, (w.sessions c).uid = d then (w.store.bots d).map (fun _ => false)
          else w.store.bots d,
        fun r => if ∃ c ∈ cs, (w.sessions c).clientresource = r then
          (w.store.clients r).map (fun _ => false) else w.store.clients r⟩,
      effects := w.effects ++ cs.map Effect.close } := by
  induction cs generalizing w with
  | nil => simp
  | cons c cs ih =>
    rw [List.foldl_cons, ih]
    simp only [World.disconnect_sessions, World.disconnect_effects, World.disconnect_store,
      List.map_cons, List.append_assoc, List.singleton_append, List.exists_mem_cons]
    congr 1
    ext1
    · funext d
      by_cases h : (w.sessions c).uid = d <;> by_cases hs : ∃ a ∈ cs, (w.sessions a).uid = d <;>
        simp [h, hs, Option.map_map, Function.comp_def]
    · funext r
      by_cases h : (w.sessions c).clientresource = r <;>
        by_cases hs : ∃ a ∈ cs, (w.sessions a).clientresource = r <;>
        simp [h, hs, Option.map_map, Function.comp_def]

/-- **Shutdown.** `XMPPServer.disconnect` closes the transport of every registered
session, in the order of `XMPPServer.clients`, and takes offline the bot record of
each one's uid and the client record of each one's resource; every other record
stays as it was, no record is created, and no client object changes: no session
is set to `DISCONNECT`, so the ping loops of the `READY` ones go on. -/
theorem serverDisconnect_closed_form (w : World) :
    serverDisconnect w = { w with
      store := ⟨fun d => if ∃ c ∈ w.clients, (w.sessions c).uid = d then
          (w.store.bots d).map (fun _ => false) else w.store.bots d,
        fun r => if ∃ c ∈ w.clients, (w.sessions c).clientresource = r then
          (w.store.clients r).map (fun _ => false) else w.store.clients r⟩,
      effects := w.effects ++ w.clients.map Effect.close } :=
  foldl_disconnect_eq w.clients w

end Bumper
