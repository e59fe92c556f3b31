import Bumper.Server
import Mathlib.Logic.Relation

/-!
# Bumper — what one event can change

Every handler works on the client object it was called for and on nothing else
of the server but the store, the log of transport effects and the task list.
This module says so once, for every handler and every chunk, so that the laws
over whole runs are each a short case analysis on the client object.

* `Move` — the changes the source makes to one client object: `set_state` to a
  state not lower, the uid and resource `_handle_sasl_auth` reads, the type it
  grants, the JID `_handle_bind` computes (with its move to `BIND`), the devclass
  `_handle_connect` reads in `CONNECT`, and the TLS flag.
* `Local me w w'` — `w'` differs from `w` only in the store, in effects and tasks
  appended, in the `uuid4()` supply, and in session `me`, by moves.
* `dispatch_local`, `dataReceived_local` — every chunk is local to its session.
* `step_session` — one event moves a session, or (an accept) creates it.
* `Reachable.session_inv` — a property of client objects that fresh sessions
  have and every move keeps holds of every session of every reachable state.
-/

namespace Bumper

open Xml

/-! ## Moves of one client object -/

/-- One change of a client object, as the handlers make it. -/
inductive Move : Client → Client → Prop
  /-- `set_state` to the same or a higher state. -/
  | setState {cl : Client} {s : State} (h : cl.state.toNat ≤ s.toNat) :
      Move cl { cl with state := s }
  /-- `_handle_sasl_auth`: the uid and the resource read from the payload. -/
  | auth (cl : Client) (uid res : String) : Move cl { cl with uid := uid, clientresource := res }
  /-- `_handle_sasl_auth`: the type authenticated. -/
  | kind (cl : Client) (ty : Kind) : Move cl { cl with type := ty }
  /-- `_handle_bind` and its `set_state("BIND")`. -/
  | bind {cl cl' : Client} (b : Element) (h : bound cl b = some cl') :
      Move cl (if State.bind.toNat < cl.state.toNat then cl' else { cl' with state := .bind })
  /-- `_handle_connect` in `CONNECT`: the devclass of the stream header. -/
  | devclass {cl : Client} (d : String) (h : cl.state = .connect) :
      Move cl { cl with devclass := d }
  /-- `_handle_starttls`. -/
  | tls (cl : Client) : Move cl { cl with tlsUpgraded := true }

/-- A sequence of moves. -/
abbrev Moves : Client → Client → Prop := Relation.ReflTransGen Move

/-- A property every move keeps is kept by every sequence of moves. -/
theorem Moves.preserve {P : Client → Prop} (hmove : ∀ {cl cl'}, Move cl cl' → P cl → P cl')
    {cl cl' : Client} (h : Moves cl cl') (hp : P cl) : P cl' := by
  induction h with
  | refl => exact hp
  | tail _ hm ih => exact hmove hm ih

/-- What `bound` changes: the JID and, for a controller naming a resource, the
resource. -/
theorem bound_eq_some {self cl : Client} {b : Element} (h : bound self b = some cl) :
    ∃ jid res, cl = { self with bumperJid := jid, clientresource := res } ∧
      (self.devclass ≠ "" → jid = self.uid ++ "@" ++ self.devclass ++ ".ecorobot.net/atom") := by
  unfold bound at h
  split_ifs at h with hd
  · cases h
    exact ⟨_, self.clientresource, rfl, fun _ => rfl⟩
  · split at h
    · split_ifs at h
      cases h
      exact ⟨_, _, rfl, fun h' => absurd h' hd⟩
    · cases h
      exact ⟨_, self.clientresource, rfl, fun h' => absurd h' hd⟩

/-! ## Changes local to one session -/

/-- `w'` is `w` changed only in the store, in effects and tasks appended, in the
`uuid4()` supply, and by moves of session `me`. -/
structure Local (me : Nat) (w w' : World) : Prop where
  clients : w'.clients = w.clients
  accepted : w'.accepted = w.accepted
  lost : w'.lost = w.lost
  others : ∀ c, c ≠ me → w'.sessions c = w.sessions c
  moves : Moves (w.sessions me) (w'.sessions me)
  effects : w.effects <+: w'.effects
  tasks : w.tasks <+: w'.tasks

namespace Local

variable {me : Nat} {w w₁ w₂ : World}

theorem refl (w : World) : Local me w w :=
  ⟨rfl, rfl, rfl, fun _ _ => rfl, .refl, List.prefix_refl _, List.prefix_refl _⟩

theorem trans (h₁ : Local me w w₁) (h₂ : Local me w₁ w₂) : Local me w w₂ where
  clients := h₂.clients.trans h₁.clients
  accepted := h₂.accepted.trans h₁.accepted
  lost := h₂.lost.trans h₁.lost
  others c hc := (h₂.others c hc).trans (h₁.others c hc)
  moves := h₁.moves.trans h₂.moves
  effects := h₁.effects.trans h₂.effects
  tasks := h₁.tasks.trans h₂.tasks

/-- A change of nothing but the store, the supply, and effects and tasks appended. -/
theorem of_frame (h : Local me w w₁) {w₂ : World} (hc : w₂.clients = w₁.clients)
    (ha : w₂.accepted = w₁.accepted) (hl : w₂.lost = w₁.lost) (hs : w₂.sessions = w₁.sessions)
    (he : w₁.effects <+: w₂.effects) (ht : w₁.tasks <+: w₂.tasks) : Local me w w₂ :=
  h.trans ⟨hc, ha, hl, fun c _ => by rw [hs], by rw [hs], he, ht⟩

/-- Both branches of a test. -/
theorem ite_of {c : Prop} [Decidable c] {a b : World} (ha : Local me w a) (hb : Local me w b) :
    Local me w (if c then a else b) := by
  split
  · exact ha
  · exact hb

theorem send (h : Local me w w₁) (c : Nat) (s : String) : Local me w (w₁.send c s) :=
  h.of_frame rfl rfl rfl rfl (List.prefix_append _ _) (List.prefix_refl _)

theorem sendAll (h : Local me w w₁) (cs : List Nat) (s : String) : Local me w (w₁.sendAll cs s) :=
  h.of_frame rfl rfl rfl rfl (List.prefix_append _ _) (List.prefix_refl _)

theorem sendList (h : Local me w w₁) (c : Nat) (ss : List String) :
    Local me w (w₁.sendList c ss) :=
  h.of_frame rfl rfl rfl rfl (List.prefix_append _ _) (List.prefix_refl _)

theorem disconnect (h : Local me w w₁) (c : Nat) : Local me w (w₁.disconnect c) :=
  h.of_frame rfl rfl rfl rfl (List.prefix_append _ _) (List.prefix_refl _)

theorem store (h : Local me w w₁) (st : Store) : Local me w { w₁ with store := st } :=
  h.of_frame rfl rfl rfl rfl (List.prefix_refl _) (List.prefix_refl _)

theorem uuidNext (h : Local me w w₁) (n : Nat) : Local me w { w₁ with uuidNext := n } :=
  h.of_frame rfl rfl rfl rfl (List.prefix_refl _) (List.prefix_refl _)

theorem tasks_append (h : Local me w w₁) (ts : List Task) :
    Local me w { w₁ with tasks := w₁.tasks ++ ts } :=
  h.of_frame rfl rfl rfl rfl (List.prefix_refl _) (List.prefix_append _ _)

theorem effects_append (h : Local me w w₁) (es : List Effect) :
    Local me w { w₁ with effects := w₁.effects ++ es } :=
  h.of_frame rfl rfl rfl rfl (List.prefix_append _ _) (List.prefix_refl _)

theorem setClient (h : Local me w w₁) {cl : Client} (hm : Move (w₁.sessions me) cl) :
    Local me w (w₁.setClient me cl) :=
  h.trans ⟨rfl, rfl, rfl, fun c hc => by simp [hc], by simpa using .single hm,
    List.prefix_refl _, List.prefix_refl _⟩

theorem setState (h : Local me w w₁) (s : State) : Local me w (w₁.setState me s) := by
  rcases World.setState_cases w₁ me s with ⟨-, e⟩ | ⟨hl, -, e⟩ | ⟨hl, -, e⟩ <;> rw [e]
  · exact h
  · exact h.setClient (.setState hl)
  · exact (h.setClient (.setState hl)).disconnect me

/-- Every session moves: `me` by its moves, any other by none. -/
theorem moves_at (h : Local me w w₁) (c : Nat) : Moves (w.sessions c) (w₁.sessions c) := by
  by_cases hc : c = me
  · exact hc ▸ h.moves
  · rw [h.others c hc]

/-- `_handle_bind`'s new client object and its `set_state("BIND")`. -/
theorem bind (h : Local me w w₁) {b : Element} {cl : Client} (hb : bound (w₁.sessions me) b = some cl) :
    Local me w ((w₁.setClient me cl).setState me .bind) := by
  have hs : cl.state = (w₁.sessions me).state := by
    obtain ⟨jid, res, rfl, -⟩ := bound_eq_some hb; rfl
  have hm := Move.bind b hb
  rcases World.setState_cases (w₁.setClient me cl) me .bind with ⟨hl, e⟩ | ⟨hl, -, e⟩ | ⟨-, hd, -⟩
  · rw [e]
    simp only [World.setClient_sessions, if_true, hs] at hl
    exact h.setClient (by simpa [hl] using hm)
  · rw [e]
    simp only [World.setClient_sessions, if_true, hs] at hl
    refine h.trans ⟨rfl, rfl, rfl, fun c hc => by simp [hc], ?_, List.prefix_refl _,
      List.prefix_refl _⟩
    simpa [Nat.not_lt.2 hl] using Relation.ReflTransGen.single hm
  · cases hd

end Local

/-! ## Every handler is local to its session -/

section handlers

variable (cfg : Config) (w : World) (me : Nat) (x : Element) (d : String)

theorem ctlForward_local {w₀ : World} (self : Client) (h : Local me w₀ w) : Local me w₀ (ctlForward w self x) := by
  unfold ctlForward World.forward
  split
  · exact h
  · dsimp only
    split
    · exact h
    · split
      · exact h
      · exact h.sendAll _ _

theorem handleCtl_local : Local me w (handleCtl w me x d) := by
  unfold handleCtl
  dsimp only
  have reply := (Local.refl w : Local me w w).send me (featureNotImplemented x)
  exact .ite_of reply <| .ite_of reply <| .ite_of reply <|
    ctlForward_local _ me x _ (.ite_of ((Local.refl w).send _ _) (.refl w))

theorem handlePing_local : Local me w (handlePing w me x) := by
  unfold handlePing World.forward
  dsimp only
  split
  · exact (Local.refl w).send _ _
  · split
    · exact .refl w
    · exact (Local.refl w).sendAll _ _

theorem enrol_local : Local me w (enrol cfg w me x) := by
  unfold enrol
  dsimp only
  split
  · split
    · exact .refl w
    · split
      · split
        · exact .refl w
        · split
          · exact .refl w
          · exact ((Local.refl w).uuidNext _).sendList _ _
      · exact .refl w
  · exact .refl w

theorem handleResult_local : Local me w (handleResult cfg w me x d) := by
  unfold handleResult resultRoute broadcastDe World.forward
  dsimp only
  split
  · exact enrol_local cfg w me x
  · split
    · exact .refl w
    · split <;> split
      all_goals first
        | exact .refl w
        | exact (Local.refl w).sendAll _ _
        | exact ((Local.refl w).sendAll _ _).sendAll _ _

theorem handleSaslAuth_local : Local me w (handleSaslAuth cfg w me x) := by
  unfold handleSaslAuth
  split
  · exact .refl w
  · refine .ite_of (.refl w) ?_
    split
    · exact .refl w
    · rename_i uid resource _ _
      dsimp only
      have ha := (Local.refl w).setClient
        (Move.auth (w.sessions me) uid (resource.getD (w.sessions me).clientresource))
      split_ifs
      · exact (((ha.store _).setClient (by simpa using Move.kind _ Kind.bot)).send _ _).setState _
      · exact (((ha.setClient (by simpa using Move.kind _ Kind.controller)).store _).setState _).send _ _
      · exact ha.send _ _

theorem handleBind_local : Local me w (handleBind w me x) := by
  unfold handleBind
  dsimp only
  split
  · exact (Local.refl w).store _
  · rename_i cl hcl
    obtain ⟨b, -, hb⟩ := Option.bind_eq_some.1 hcl
    apply Local.send
    exact ((Local.refl w).store _).bind hb

theorem handleSession_local : Local me w (handleSession w me x) :=
  (((Local.refl w).setState _).send _ _).tasks_append _

theorem handlePresence_local : Local me w (handlePresence w me x) := by
  unfold handlePresence
  dsimp only
  have dummy := (Local.refl w : Local me w w).send me (dummyPresence (w.sessions me).bumperJid)
  exact .ite_of (.ite_of (dummy.send _ _) dummy) <| .ite_of dummy <|
    .ite_of ((Local.refl w).setState _) dummy

theorem handleConnect_local (xml : Option Element) : Local me w (handleConnect cfg w me d xml) := by
  unfold handleConnect
  dsimp only
  split
  · rename_i hc
    split
    · split
      · apply Local.send; apply Local.send
        split
        · exact (Local.refl w).setClient (Move.devclass _ hc)
        · exact .refl w
      · exact (Local.refl w).send _ _
    · split
      · exact handleSaslAuth_local cfg w me _
      · exact .refl w
  · split
    · split
      · split
        · exact ((Local.refl w).send _ _).send _ _
        · exact .refl w
      · split
        · exact handleBind_local w me _
        · exact .refl w
    · exact .refl w

theorem handleIq_local : Local me w (handleIq cfg w me x d) := by
  unfold handleIq
  dsimp only
  have result := handleResult_local cfg w me x d
  exact .ite_of (.ite_of (handleBind_local w me x) <| .ite_of (handleSession_local w me x) <|
    .ite_of (handlePing_local w me x) <| .ite_of (.ite_of result (handleCtl_local w me x d)) <|
    .ite_of result <| .ite_of result (.refl w)) (.refl w)

theorem handleParseError_local (msg : String) : Local me w (handleParseError cfg w me d msg) := by
  unfold handleParseError
  dsimp only
  have header := handleConnect_local cfg w me d none
  exact .ite_of (.ite_of header (.refl w)) <| .ite_of (.ite_of ((Local.refl w).send _ _) (.refl w)) <|
    .ite_of (.ite_of header (.refl w)) <| .ite_of (((Local.refl w).send _ _).setState _) (.refl w)

end handlers

mutual
theorem dispatch_local (cfg : Config) (me : Nat) (d : String) :
    ∀ (w : World) (e : Element), Local me w (dispatch cfg me d w e)
  | w, ⟨tag, attrib, text, tail, cs⟩ => by
    have list := dispatchList_local cfg me d w cs
    have tls : Local me w (if (w.sessions me).tlsUpgraded then w
        else { w with tasks := w.tasks ++ [.starttls me] }) :=
      .ite_of (.refl w) ((Local.refl w).tasks_append _)
    unfold dispatch
    exact .ite_of list <| .ite_of (handleIq_local cfg w me _ d) <|
      .ite_of (.ite_of (handleSaslAuth_local cfg w me _) list) <|
      .ite_of (tls.trans (dispatchList_local cfg me d _ cs)) <| .ite_of (handlePresence_local w me _) list
theorem dispatchList_local (cfg : Config) (me : Nat) (d : String) :
    ∀ (w : World) (es : List Element), Local me w (dispatchList cfg me d w es)
  | w, [] => .refl w
  | w, e :: es => (dispatch_local cfg me d w e).trans (dispatchList_local cfg me d _ es)
end

/-- **Every chunk is local to its session**, also when it fails to decode. -/
theorem dataReceived_local (cfg : Config) (w : World) (me : Nat) (data : List UInt8) :
    Local me w (dataReceived cfg w me data) := by
  unfold dataReceived parseData
  cases Py.utf8Decode data with
  | none => exact (Local.refl w).effects_append _
  | some text =>
    dsimp only [Option.map_some', Option.getD_some]
    split
    · exact dispatch_local cfg me _ w _
    · exact handleParseError_local cfg w me _ _

theorem setState_moves (w : World) (c d : Nat) (s : State) :
    Moves (w.sessions d) ((w.setState c s).sessions d) :=
  (Local.setState (Local.refl w : Local c w w) s).moves_at d

/-! ## Events -/

/-- A chunk neither makes nor loses a connection. -/
theorem step_data_history (cfg : Config) (w : World) (c : Nat) (chunk : List UInt8) :
    (step cfg w (.data c chunk)).accepted = w.accepted ∧ (step cfg w (.data c chunk)).lost = w.lost := by
  rw [step]
  split
  · exact ⟨(dataReceived_local cfg w c chunk).accepted, (dataReceived_local cfg w c chunk).lost⟩
  · exact ⟨rfl, rfl⟩

theorem taskStep_moves (cfg : Config) (w : World) (t : Task) (ok : Bool) (c : Nat) :
    Moves (w.sessions c) ((taskStep cfg w t ok).1.sessions c) := by
  unfold taskStep
  split
  · rename_i c'
    dsimp only
    split
    · exact .refl
    · have h := ((Local.refl w).setClient (Move.tls (w.sessions c'))).send c' ""
      split <;> exact h.moves_at c
  · split <;> exact .refl
  · split <;> exact .refl
  · exact .refl

theorem serverDisconnect_sessions (w : World) : (serverDisconnect w).sessions = w.sessions := by
  unfold serverDisconnect
  generalize w.clients = cs
  induction cs generalizing w with
  | nil => rfl
  | cons c cs ih => simp [ih]

/-- **What one event does to a session**: a sequence of moves, or, for an accept,
the fresh client object of the new connection. -/
theorem step_session (cfg : Config) (w : World) (e : Event) (c : Nat) :
    Moves (w.sessions c) ((step cfg w e).sessions c) ∨
      (e = .accept ∧ (step cfg w e).sessions c = { Client.new with state := .connect }) := by
  cases e with
  | accept =>
    by_cases hc : c = w.accepted
    · exact .inr ⟨rfl, by simp [step, hc]⟩
    · exact .inl (by simp [step, hc]; exact .refl)
  | data c' chunk =>
    refine .inl ?_
    rw [step]
    split
    · exact (dataReceived_local cfg w c' chunk).moves_at c
    · exact .refl
  | lost c' =>
    refine .inl ?_
    rw [step]
    split
    · unfold callConnectionLost connectionLost
      split
      · exact setState_moves { w with clients := w.clients.erase c' } c' c _
      · exact .refl
    · exact .refl
  | task i ok =>
    refine .inl ?_
    rw [step]
    unfold runTask
    split
    · exact .refl
    · exact taskStep_moves cfg { w with tasks := w.tasks.eraseIdx i } _ ok c
  | shutdown => exact .inl (by simp [step, serverDisconnect_sessions]; exact .refl)

/-- **Session invariants.** A property of client objects that every session of the
initial state and every fresh session have, and that every move keeps, holds of
every session of every reachable state. -/
theorem Reachable.session_inv {cfg : Config} {w₀ w : World} {P : Client → Prop}
    (hmove : ∀ {cl cl'}, Move cl cl' → P cl → P cl') (hfresh : P { Client.new with state := .connect })
    (hinit : ∀ c, P (w₀.sessions c)) (h : Reachable cfg w₀ w) (c : Nat) : P (w.sessions c) := by
  induction h generalizing c with
  | init => exact hinit c
  | @step w e _ ih =>
    rcases step_session cfg w e c with hm | ⟨-, he⟩
    · exact Moves.preserve hmove hm (ih c)
    · exact he ▸ hfresh

end Bumper
