import Bumper.Frame

/-!
# Bumper — what a chunk does, for the run invariants of sessions

`Local` says which parts of the server a chunk can change. The laws over whole
runs in `Bumper.Sessions` and `Bumper.Effects` need more facts about a chunk for
connection `me`, and this module proves them once, for every handler:

* every transport effect it causes is a write or a close, on `me` or on a
  session of `XMPPServer.clients` (the replies, and the copies the forwarding
  loops send);
* the only tasks it creates are a `_handle_starttls` and a `schedule_ping(30)`
  task of `me`;
* it makes `me` `READY` only together with a new `schedule_ping(30)` task: the
  one `set_state("READY")` of the source is in `_handle_session`, which creates
  the task;
* it keeps `KindOk` of `me` (a session that `_handle_sasl_auth` typed is past
  `CONNECT`, and it is a bot exactly when it has a devclass) and its TLS flag.

`Acts me w w'` holds these; `dataReceived_acts` is the result.
-/

namespace Bumper

open Xml

/-- The kind a session has agrees with its stream header: `_handle_sasl_auth`
types a session together with `set_state("INIT")`, as a bot when `_handle_connect`
gave it a devclass and as a controller otherwise, and `_handle_connect` writes
the devclass only in `CONNECT`. -/
def KindOk (cl : Client) : Prop :=
  cl.type ≠ .unknown → State.init.toNat ≤ cl.state.toNat ∧ (cl.type = .bot ↔ cl.devclass ≠ "")

instance : DecidablePred KindOk := fun _ => inferInstanceAs (Decidable (_ → _))

theorem KindOk.state_le {cl : Client} {s : State} (h : KindOk cl) (hs : cl.state.toNat ≤ s.toNat) :
    KindOk { cl with state := s } :=
  fun ht => (h ht).imp_left fun hi => hi.trans hs

/-- A session not typed yet satisfies `KindOk`, whatever its other fields. -/
theorem kindOk_of_unknown {cl : Client} (h : cl.type = .unknown) : KindOk cl :=
  fun ht => absurd h ht

/-- The connection an effect acts on. -/
def Effect.conn : Effect → Nat
  | .write c _ => c
  | .close c => c
  | .startTls c => c
  | .replaceTransport c => c

/-- The effects a handler has on transports: `transport.write` and
`transport.close`. -/
def Effect.isSend : Effect → Bool
  | .write _ _ => true
  | .close _ => true
  | _ => false

/-- `w'` is `w` after what a handler for connection `me` does: the registry as it
was, writes and closes appended on `me` or on registered sessions, a
`_handle_starttls` or a `schedule_ping(30)` task of `me` appended, `me` made
`READY` only with a ping task, its TLS flag and `KindOk` kept. -/
structure Acts (me : Nat) (w w' : World) : Prop where
  clients : w'.clients = w.clients
  effects : ∃ es, w'.effects = w.effects ++ es ∧
    ∀ e ∈ es, (e.conn = me ∨ e.conn ∈ w.clients) ∧ e.isSend = true
  tasks : ∃ ts, w'.tasks = w.tasks ++ ts ∧ ∀ t ∈ ts, t = .starttls me ∨ t = .ping me 30
  ready : (w'.sessions me).state = .ready → (w.sessions me).state = .ready ∨ .ping me 30 ∈ w'.tasks
  kind : KindOk (w.sessions me) → KindOk (w'.sessions me)
  tls : (w'.sessions me).tlsUpgraded = (w.sessions me).tlsUpgraded

namespace Acts

variable {me : Nat} {w w₁ w₂ : World}

theorem refl (w : World) : Acts me w w :=
  ⟨rfl, ⟨[], by simp, by simp⟩, ⟨[], by simp, by simp⟩, .inl, id, rfl⟩

theorem tasks_prefix (h : Acts me w w₁) : w.tasks <+: w₁.tasks := by
  obtain ⟨ts, hts, -⟩ := h.tasks
  exact hts ▸ List.prefix_append _ _

theorem trans (h₁ : Acts me w w₁) (h₂ : Acts me w₁ w₂) : Acts me w w₂ where
  clients := h₂.clients.trans h₁.clients
  effects := by
    obtain ⟨e₁, he₁, ha₁⟩ := h₁.effects
    obtain ⟨e₂, he₂, ha₂⟩ := h₂.effects
    refine ⟨e₁ ++ e₂, by rw [he₂, he₁, List.append_assoc], fun e he => ?_⟩
    rcases List.mem_append.1 he with he | he
    · exact ha₁ e he
    · exact h₁.clients ▸ ha₂ e he
  tasks := by
    obtain ⟨t₁, ht₁, ha₁⟩ := h₁.tasks
    obtain ⟨t₂, ht₂, ha₂⟩ := h₂.tasks
    refine ⟨t₁ ++ t₂, by rw [ht₂, ht₁, List.append_assoc], fun t ht => ?_⟩
    rcases List.mem_append.1 ht with ht | ht
    · exact ha₁ t ht
    · exact ha₂ t ht
  ready hr := (h₂.ready hr).elim (fun hr₁ => (h₁.ready hr₁).imp_right fun ht => h₂.tasks_prefix.subset ht) .inr
  kind hk := h₂.kind (h₁.kind hk)
  tls := h₂.tls.trans h₁.tls

/-- Writes and closes on `me` or on registered sessions appended, and nothing else
changed that the laws read. -/
theorem append (h : Acts me w w₁) {es : List Effect} (he : w₂.effects = w₁.effects ++ es)
    (ha : ∀ e ∈ es, (e.conn = me ∨ e.conn ∈ w₁.clients) ∧ e.isSend = true)
    (hc : w₂.clients = w₁.clients) (ht : w₂.tasks = w₁.tasks) (hs : w₂.sessions = w₁.sessions) :
    Acts me w w₂ :=
  h.trans ⟨hc, ⟨es, he, ha⟩, ⟨[], by simp [ht], by simp⟩, fun hr => .inl (hs ▸ hr), fun hk => hs ▸ hk,
    by rw [hs]⟩

theorem ite_of {c : Prop} [Decidable c] {a b : World} (ha : Acts me w a) (hb : Acts me w b) :
    Acts me w (if c then a else b) := by
  split
  · exact ha
  · exact hb

theorem send (h : Acts me w w₁) (s : String) : Acts me w (w₁.send me s) :=
  h.append rfl (by simp [Effect.conn, Effect.isSend]) rfl rfl rfl

theorem sendList (h : Acts me w w₁) (ss : List String) : Acts me w (w₁.sendList me ss) :=
  h.append rfl (by simp [Effect.conn, Effect.isSend]) rfl rfl rfl

/-- The same text to registered sessions: the loops of the forwarding handlers
and the broadcast of `_handle_result`. -/
theorem sendAll (h : Acts me w w₁) {cs : List Nat} (hcs : ∀ c ∈ cs, c ∈ w₁.clients) (s : String) :
    Acts me w (w₁.sendAll cs s) :=
  h.append rfl (by simpa [Effect.conn, Effect.isSend] using fun c hc => .inr (hcs c hc)) rfl rfl rfl

theorem forward (h : Acts me w w₁) (sel : Client → Bool) (s : String) : Acts me w (w₁.forward sel s) :=
  h.sendAll (fun _ hc => (World.mem_select.1 hc).1) s

theorem store (h : Acts me w w₁) (st : Store) : Acts me w { w₁ with store := st } :=
  h.append (List.append_nil _).symm (by simp) rfl rfl rfl

theorem uuidNext (h : Acts me w w₁) (n : Nat) : Acts me w { w₁ with uuidNext := n } :=
  h.append (List.append_nil _).symm (by simp) rfl rfl rfl

/-- A `_handle_starttls` or a `schedule_ping(30)` task of `me` appended. -/
theorem task (h : Acts me w w₁) {t : Task} (ht : t = .starttls me ∨ t = .ping me 30) :
    Acts me w { w₁ with tasks := w₁.tasks ++ [t] } :=
  h.trans ⟨rfl, ⟨[], by simp, by simp⟩, ⟨[t], rfl, by simpa using ht⟩, fun hr => .inl hr, id, rfl⟩

/-- A new client object for `me` that becomes `READY` only if `me` was, and keeps
`KindOk` and the TLS flag. -/
theorem setClient_of (h : Acts me w w₁) {cl : Client}
    (hr : cl.state = .ready → (w₁.sessions me).state = .ready)
    (hk : KindOk (w₁.sessions me) → KindOk cl) (ht : cl.tlsUpgraded = (w₁.sessions me).tlsUpgraded) :
    Acts me w (w₁.setClient me cl) :=
  h.trans ⟨rfl, ⟨[], by simp, by simp⟩, ⟨[], by simp, by simp⟩,
    fun hs => .inl (hr (by simpa using hs)), fun hk' => by simpa using hk hk', by simpa using ht⟩

/-- A new client object for `me` in the same state. -/
theorem setClient (h : Acts me w w₁) {cl : Client} (hs : cl.state = (w₁.sessions me).state)
    (hk : KindOk (w₁.sessions me) → KindOk cl) (ht : cl.tlsUpgraded = (w₁.sessions me).tlsUpgraded) :
    Acts me w (w₁.setClient me cl) :=
  h.setClient_of (fun hr => hs ▸ hr) hk ht

/-- The client object `set_state` writes, for a state above the current one. -/
theorem upState (h : Acts me w w₁) {s : State} (hs : s ≠ .ready)
    (hle : (w₁.sessions me).state.toNat ≤ s.toNat) :
    Acts me w (w₁.setClient me { w₁.sessions me with state := s }) :=
  h.setClient_of (fun hr => absurd hr hs) (fun hk => hk.state_le hle) rfl

/-- `set_state` to any state but `READY`. -/
theorem setState (h : Acts me w w₁) {s : State} (hs : s ≠ .ready) : Acts me w (w₁.setState me s) := by
  rcases World.setState_cases w₁ me s with ⟨-, e⟩ | ⟨hle, -, e⟩ | ⟨hle, -, e⟩ <;> rw [e]
  · exact h
  · exact h.upState hs hle
  · exact (h.upState hs hle).append rfl (by simp [Effect.conn, Effect.isSend]) rfl rfl rfl

/-- `_handle_sasl_auth`'s success: a client object `cl` with the type written,
texts sent and the store written, and `set_state("INIT")`. The type agrees with
the devclass, and `set_state` brings the session to `INIT` unless it is past it. -/
theorem typed (h : Acts me w w₁) {cl : Client} (hstate : cl.state = (w₁.sessions me).state)
    (htls : cl.tlsUpgraded = (w₁.sessions me).tlsUpgraded)
    (hty : cl.type ≠ .unknown → (cl.type = .bot ↔ cl.devclass ≠ ""))
    {u : World} (hs : u.sessions = (w₁.setClient me cl).sessions)
    (hc : u.clients = w₁.clients) (ht : u.tasks = w₁.tasks) {es : List Effect}
    (he : u.effects = w₁.effects ++ es)
    (ha : ∀ e ∈ es, (e.conn = me ∨ e.conn ∈ w₁.clients) ∧ e.isSend = true) :
    Acts me w (u.setState me .init) := by
  have hu : u.sessions me = cl := by simp [hs]
  have final : ∀ cl' : Client, cl'.type = cl.type → cl'.devclass = cl.devclass →
      cl'.tlsUpgraded = cl.tlsUpgraded →
      State.init.toNat ≤ cl'.state.toNat → (cl'.state = .ready → cl.state = .ready) →
      (u.setState me .init).sessions = (w₁.setClient me cl').sessions →
      Acts me w (u.setState me .init) := fun cl' hty' hd' htl hi hr hs' =>
    (h.setClient_of (hstate ▸ hr) (fun _ hne => ⟨hi, hd' ▸ hty' ▸ hty (hty' ▸ hne)⟩)
      (htl.trans htls)).append
      (by rw [World.setState_effects_of_ne _ _ (by decide), he]; rfl) ha
      (by simp [hc]) (by simp [ht]) hs'
  rcases World.setState_cases u me .init with ⟨hlt, e⟩ | ⟨hle, -, e⟩ | ⟨-, hd, -⟩
  · rw [hu] at hlt
    exact final cl rfl rfl rfl hlt.le id (by rw [e, hs])
  · refine final { cl with state := .init } rfl rfl rfl le_rfl (fun h' => by cases h') ?_
    rw [e, hu]
    funext d
    by_cases hd : d = me <;> simp [hd, hs]
  · cases hd

end Acts

section handlers

variable (cfg : Config) (w : World) (me : Nat) (x : Element) (d : String)

theorem ctlForward_acts {w₀ : World} (self : Client) (h : Acts me w₀ w) :
    Acts me w₀ (ctlForward w self x) := by
  unfold ctlForward
  split
  · exact h
  · dsimp only
    split
    · exact h
    · split
      · exact h
      · exact h.forward _ _

theorem handleCtl_acts : Acts me w (handleCtl w me x d) := by
  unfold handleCtl
  dsimp only
  have reply := (Acts.refl w : Acts me w w).send (featureNotImplemented x)
  exact .ite_of reply <| .ite_of reply <| .ite_of reply <|
    ctlForward_acts _ me x _ (.ite_of ((Acts.refl w).send _) (.refl w))

theorem handlePing_acts : Acts me w (handlePing w me x) := by
  unfold handlePing
  dsimp only
  split
  · exact (Acts.refl w).send _
  · split
    · exact .refl w
    · exact (Acts.refl w).forward _ _

theorem enrol_acts : Acts me w (enrol cfg w me x) := by
  unfold enrol
  dsimp only
  split
  · split
    · exact .refl w
    · split
      · split
        · exact .refl w
        · split
          · exact .refl w
          · exact ((Acts.refl w).uuidNext _).sendList _
      · exact .refl w
  · exact .refl w

theorem handleResult_acts : Acts me w (handleResult cfg w me x d) := by
  unfold handleResult resultRoute broadcastDe
  dsimp only
  split
  · exact enrol_acts cfg w me x
  · split
    · exact .refl w
    · have all := (Acts.refl w : Acts me w w).sendAll (fun _ h => h) (cleanCtl ‹String›)
      split <;> split
      all_goals first
        | exact .refl w
        | exact all
        | exact (Acts.refl w).forward _ _
        | exact all.forward _ _

theorem handleSaslAuth_acts : Acts me w (handleSaslAuth cfg w me x) := by
  unfold handleSaslAuth
  split
  · exact .refl w
  · refine .ite_of (.refl w) ?_
    split
    · exact .refl w
    · rename_i uid resource _ _
      dsimp only
      have auth : Acts me w (w.setClient me { w.sessions me with
          uid := uid, clientresource := resource.getD (w.sessions me).clientresource }) :=
        (Acts.refl w).setClient rfl id rfl
      split_ifs with hd hc
      · exact (auth.store _).typed (by simp) (by simp) (fun _ => by simp [hd]) rfl rfl rfl rfl
          (by simp [Effect.conn, Effect.isSend])
      · refine Acts.send ?_ _
        refine auth.typed ?_ ?_ (fun _ => ?_) rfl rfl rfl (List.append_nil _).symm (by simp)
        · simp
        · simp
        · simp_all
      · exact auth.send _

theorem handleBind_acts : Acts me w (handleBind w me x) := by
  unfold handleBind
  dsimp only
  split
  · exact (Acts.refl w).store _
  · rename_i cl hb
    obtain ⟨b, -, hb⟩ := Option.bind_eq_some.1 hb
    obtain ⟨jid, res, rfl, -⟩ := bound_eq_some hb
    refine Acts.send (Acts.setState (((Acts.refl w).store _).setClient ?_ ?_ ?_) ?_) _
    · rfl
    · exact id
    · rfl
    · decide

/-- The one `set_state("READY")`, with the ping task that `_handle_session` creates. -/
theorem handleSession_acts : Acts me w (handleSession w me x) where
  clients := by simp [handleSession]
  effects := ⟨[.write me ("<iq type=\"result\" id=\"" ++ pyStr (x.get "id") ++ "\" />")],
    by simp [handleSession, World.setState_effects_of_ne], by simp [Effect.conn, Effect.isSend]⟩
  tasks := ⟨[.ping me 30], by simp [handleSession], by simp⟩
  ready _ := .inr (by simp [handleSession])
  kind hk := by
    simp only [handleSession, World.send_sessions, World.setState_sessions, true_and, if_true]
    split
    · exact hk.state_le ‹_›
    · exact hk
  tls := by
    simp only [handleSession, World.send_sessions, World.setState_sessions, true_and, if_true]
    split <;> rfl

theorem handlePresence_acts : Acts me w (handlePresence w me x) := by
  unfold handlePresence
  dsimp only
  have dummy := (Acts.refl w : Acts me w w).send (dummyPresence (w.sessions me).bumperJid)
  exact .ite_of (.ite_of (dummy.send _) dummy) <| .ite_of dummy <|
    .ite_of ((Acts.refl w).setState (by decide)) dummy

/-- A session in `CONNECT` is not typed yet. -/
theorem KindOk.unknown_of_connect {cl : Client} (h : KindOk cl) (hc : cl.state = .connect) :
    cl.type = .unknown :=
  Classical.byContradiction fun ht => absurd (h ht).1 (by rw [hc]; decide)

theorem handleConnect_acts (xml : Option Element) : Acts me w (handleConnect cfg w me d xml) := by
  unfold handleConnect
  dsimp only
  split
  · rename_i hc
    split
    · split
      · refine Acts.send (Acts.send ?_ _) _
        split
        · exact (Acts.refl w).setClient rfl (fun hk => kindOk_of_unknown (hk.unknown_of_connect hc)) rfl
        · exact .refl w
      · exact (Acts.refl w).send _
    · split
      · exact handleSaslAuth_acts cfg w me _
      · exact .refl w
  · split
    · split
      · split
        · exact ((Acts.refl w).send _).send _
        · exact .refl w
      · split
        · exact handleBind_acts w me _
        · exact .refl w
    · exact .refl w

theorem handleIq_acts : Acts me w (handleIq cfg w me x d) := by
  unfold handleIq
  dsimp only
  by_cases hx : x.tag = "iq"
  · rw [if_pos hx]
    have result := handleResult_acts cfg w me x d
    exact .ite_of (handleBind_acts w me x) <| .ite_of (handleSession_acts w me x) <|
      .ite_of (handlePing_acts w me x) <| .ite_of (.ite_of result (handleCtl_acts w me x d)) <|
      .ite_of result <| .ite_of result (.refl w)
  · rw [if_neg hx]
    exact .refl w

theorem handleParseError_acts (msg : String) : Acts me w (handleParseError cfg w me d msg) := by
  unfold handleParseError
  dsimp only
  have header := handleConnect_acts cfg w me d none
  have close := (Acts.refl w : Acts me w w).send "</stream:stream>"
  exact .ite_of (.ite_of header (.refl w)) <| .ite_of (.ite_of close (.refl w)) <|
    .ite_of (.ite_of header (.refl w)) <| .ite_of (close.setState (by decide)) (.refl w)

end handlers

mutual
theorem dispatch_acts (cfg : Config) (me : Nat) (d : String) :
    ∀ (w : World) (e : Element), Acts me w (dispatch cfg me d w e)
  | w, ⟨tag, attrib, text, tail, cs⟩ => by
    have list := dispatchList_acts cfg me d w cs
    have tls : Acts me w (if (w.sessions me).tlsUpgraded then w
        else { w with tasks := w.tasks ++ [.starttls me] }) :=
      .ite_of (.refl w) ((Acts.refl w).task (.inl rfl))
    unfold dispatch
    exact .ite_of list <| .ite_of (handleIq_acts cfg w me _ d) <|
      .ite_of (.ite_of (handleSaslAuth_acts cfg w me _) list) <|
      .ite_of (tls.trans (dispatchList_acts cfg me d _ cs)) <| .ite_of (handlePresence_acts w me _) list
theorem dispatchList_acts (cfg : Config) (me : Nat) (d : String) :
    ∀ (w : World) (es : List Element), Acts me w (dispatchList cfg me d w es)
  | w, [] => .refl w
  | w, e :: es => (dispatch_acts cfg me d w e).trans (dispatchList_acts cfg me d _ es)
end

/-- **What a chunk does.** Every effect a chunk for connection `me` causes is a
write or a close, on `me` or on a session of the registry; the tasks it appends
are `_handle_starttls` and `schedule_ping(30)` tasks of `me`; it makes `me`
`READY` only with a new ping task, and keeps `KindOk` of `me`. -/
theorem dataReceived_acts (cfg : Config) (w : World) (me : Nat) (data : List UInt8) :
    Acts me w (dataReceived cfg w me data) := by
  unfold dataReceived parseData
  cases Py.utf8Decode data with
  | none => exact (Acts.refl w).append rfl (by simp [Effect.conn, Effect.isSend]) rfl rfl rfl
  | some text =>
    dsimp only [Option.map_some', Option.getD_some]
    split
    · exact dispatch_acts cfg me _ w _
    · exact handleParseError_acts cfg w me _ _

end Bumper
