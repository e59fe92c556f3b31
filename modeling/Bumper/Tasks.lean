import Bumper.Registry
import Bumper.Cleanup
import Bumper.Lifecycle

/-!
# Bumper — the tasks of a session: ping loops and the TLS upgrade

The handlers create two kinds of asyncio task: `_handle_session` a
`schedule_ping(30)` loop, and `parse_data` a `_handle_starttls` for a `starttls`
element while the TLS flag is not set. The event loop runs them one step at a
time between the callbacks.

* `sessionIq_tasks` — every session iq starts another ping loop, in every
  state; so a second session request leaves two loops pending
  (`second_session_second_loop`).
* `starttls_at_most_once` — however many `starttls` elements a session sends and
  however the tasks interleave with later chunks, `<proceed/>` is written to the
  connection and `loop.start_tls` called for it at most once, and the flag, once
  set, stays set. The first step of a `_handle_starttls` task checks and sets
  the flag before it awaits anything (`taskStep_cases`), and nothing else writes
  `<proceed/>` or calls `start_tls` (`Quiet`, `dataReceived_quiet`).
-/

namespace Bumper

open Xml

/-! ## Ping loops -/

/-- The `schedule_ping` loops of connection `c` pending: a task before its first
step, or asleep between two pings. -/
def pingLoops (w : World) (c : Nat) : Nat :=
  w.tasks.countP fun
    | .ping d _ => d == c
    | .pingSleep d _ => d == c
    | _ => false

/-- **Every session iq starts a ping loop**, whatever the state of the session:
`_handle_session` creates a `schedule_ping(30)` task on each call. -/
theorem sessionIq_tasks (cfg : Config) (w : World) (c : Nat) :
    (dataReceived cfg w c (Py.utf8Encode sessionIq)).tasks = w.tasks ++ [.ping c 30] := by
  rw [sessionIq_received]
  show (handleSession w c _).tasks = _
  simp [handleSession]

/-- The controller `alice`, logged in and `READY` with its ping loop, sends a
second session request: two loops are pending. -/
theorem second_session_second_loop :
    ((run cfgOpen freshServer controllerLogin).sessions 0).state = .ready ∧
    pingLoops (run cfgOpen freshServer controllerLogin) 0 = 1 ∧
    pingLoops (run cfgOpen freshServer (controllerLogin ++ [.data 0 (Py.utf8Encode sessionIq)])) 0 = 2 := by
  obtain ⟨hready, -, hopen, htasks⟩ := controllerLogin_ready
  refine ⟨hready, by rw [pingLoops, htasks]; rfl, ?_⟩
  rw [run, List.foldl_append, List.foldl_cons, List.foldl_nil, ← run, step, if_pos hopen,
    pingLoops, sessionIq_tasks, htasks]
  rfl

/-! ## Texts that are not `<proceed/>` -/

/-- `<proceed/>`, which `_handle_starttls` sends before `loop.start_tls`. -/
def proceedTls : String := "<proceed xmlns=\x27urn:ietf:params:xml:ns:xmpp-tls\x27/>"

/-- A text that opens otherwise than `<proceed/>` is not `<proceed/>`. -/
theorem ne_proceedTls {x : String} (p : String) (hx : Py.startswith x p = true)
    (hp : Py.startswith proceedTls p = false) : x ≠ proceedTls := by
  rintro rfl
  rw [hx] at hp
  cases hp

/-- A text made of a literal that opens otherwise than `<proceed/>`, and more. -/
theorem lit_ne_proceedTls {lit : String} (rest p : String) (h : Py.startswith lit p = true)
    (hp : Py.startswith proceedTls p = false) : lit ++ rest ≠ proceedTls :=
  ne_proceedTls p (Py.startswith_append rest h) hp

/-- The stanzas the server writes open with `<iq`. -/
theorem iq_ne_proceedTls {lit : String} (rest : String) (h : Py.startswith lit "<iq" = true) :
    lit ++ rest ≠ proceedTls :=
  lit_ne_proceedTls rest "<iq" h (by decide)

theorem lt_i_ne_proceedTls {x : String} {r : List Char} (h : x.data = '<' :: 'i' :: r) :
    x ≠ proceedTls :=
  ne_proceedTls "<i" (by rw [Py.startswith, h]; rfl) (by decide)

theorem featureNotImplemented_ne (x : Element) : featureNotImplemented x ≠ proceedTls := by
  unfold featureNotImplemented; simp only [String.append_assoc]; exact iq_ne_proceedTls _ (by decide)

theorem rlAck_ne (x : Element) (self : Client) : rlAck x self ≠ proceedTls := by
  unfold rlAck; simp only [String.append_assoc]; exact iq_ne_proceedTls _ (by decide)

theorem bindResult_ne (x : Element) (jid : String) : bindResult x jid ≠ proceedTls := by
  unfold bindResult; simp only [String.append_assoc]; exact iq_ne_proceedTls _ (by decide)

theorem dummyPresence_ne (jid : String) : dummyPresence jid ≠ proceedTls := by
  unfold dummyPresence; simp only [String.append_assoc]; exact lit_ne_proceedTls _ "<pre" (by decide) (by decide)

theorem pingStanza_ne (jid : String) : pingStanza jid ≠ proceedTls := by
  unfold pingStanza; simp only [String.append_assoc]; exact iq_ne_proceedTls _ (by decide)

theorem pingReply_ne (x : Element) :
    "<iq type=\"result\" id=\"" ++ pyStr (x.get "id") ++ "\" from=\"" ++ pyStr (x.get "to") ++ "\" />" ≠
      proceedTls := by
  simp only [String.append_assoc]; exact iq_ne_proceedTls _ (by decide)

theorem sessionResult_ne (x : Element) :
    "<iq type=\"result\" id=\"" ++ pyStr (x.get "id") ++ "\" />" ≠ proceedTls := by
  simp only [String.append_assoc]; exact iq_ne_proceedTls _ (by decide)

theorem deviceInfo_ne (jid : String) :
    "<iq type=\"set\" id=\"14\" to=\"" ++ jid ++ "\" from=\"" ++ serverId ++
      "\"><query xmlns=\"com:ctl\"><ctl td=\"GetDeviceInfo\"/></query></iq>" ≠ proceedTls := by
  simp only [String.append_assoc]; exact iq_ne_proceedTls _ (by decide)

theorem enrolment_ne (ids : Nat → String) (admin jid newuser : String) :
    ∀ s ∈ enrolment ids admin jid newuser, s ≠ proceedTls := by
  simp only [enrolment, List.mem_cons, List.mem_singleton, List.not_mem_nil, or_false]
  rintro s (rfl | rfl | rfl) <;> simp only [String.append_assoc] <;> exact iq_ne_proceedTls _ (by decide)

/-! ## Changes that write no `<proceed/>` -/

/-- The connection a task runs for. -/
def Task.conn : Task → Nat
  | .starttls c => c
  | .handshake c => c
  | .ping c _ => c
  | .pingSleep c _ => c

/-- The effects of the first step of a `_handle_starttls` task. -/
def Effect.isTls : Effect → Bool
  | .write _ s => s == proceedTls
  | .startTls _ => true
  | _ => false

/-- `w'` is `w` with effects appended that write no `<proceed/>` and call no
`start_tls`, and tasks appended that all run for connection `me`. -/
structure Quiet (me : Nat) (w w' : World) : Prop where
  effects : ∃ es, w'.effects = w.effects ++ es ∧ ∀ e ∈ es, e.isTls = false
  tasks : ∃ ts, w'.tasks = w.tasks ++ ts ∧ ∀ t ∈ ts, t.conn = me

namespace Quiet

variable {me : Nat} {w w₁ w₂ : World}

theorem refl (w : World) : Quiet me w w := ⟨⟨[], by simp, by simp⟩, ⟨[], by simp, by simp⟩⟩

theorem trans (h₁ : Quiet me w w₁) (h₂ : Quiet me w₁ w₂) : Quiet me w w₂ := by
  obtain ⟨⟨e₁, he₁, hq₁⟩, ⟨t₁, ht₁, hc₁⟩⟩ := h₁
  obtain ⟨⟨e₂, he₂, hq₂⟩, ⟨t₂, ht₂, hc₂⟩⟩ := h₂
  exact ⟨⟨e₁ ++ e₂, by rw [he₂, he₁, List.append_assoc],
      fun e he => (List.mem_append.1 he).elim (hq₁ e) (hq₂ e)⟩,
    ⟨t₁ ++ t₂, by rw [ht₂, ht₁, List.append_assoc],
      fun t ht => (List.mem_append.1 ht).elim (hc₁ t) (hc₂ t)⟩⟩

/-- Effects appended that are not TLS ones, and no task. -/
theorem append (h : Quiet me w w₁) {es : List Effect} (he : w₂.effects = w₁.effects ++ es)
    (hq : ∀ e ∈ es, e.isTls = false) (ht : w₂.tasks = w₁.tasks) : Quiet me w w₂ :=
  h.trans ⟨⟨es, he, hq⟩, ⟨[], by rw [ht, List.append_nil], by simp⟩⟩

theorem of_eq (h : Quiet me w w₁) (he : w₂.effects = w₁.effects) (ht : w₂.tasks = w₁.tasks) :
    Quiet me w w₂ :=
  h.append (by rw [he, List.append_nil]) (by simp) ht

theorem ite_of {c : Prop} [Decidable c] {a b : World} (ha : Quiet me w a) (hb : Quiet me w b) :
    Quiet me w (if c then a else b) := by
  split
  · exact ha
  · exact hb

theorem send (h : Quiet me w w₁) (c : Nat) {s : String} (hs : s ≠ proceedTls) :
    Quiet me w (w₁.send c s) :=
  h.append rfl (by simp [Effect.isTls, hs]) rfl

theorem sendAll (h : Quiet me w w₁) (cs : List Nat) {s : String} (hs : s ≠ proceedTls) :
    Quiet me w (w₁.sendAll cs s) :=
  h.append rfl (by simp [Effect.isTls, hs]) rfl

theorem sendList (h : Quiet me w w₁) (c : Nat) {ss : List String} (hs : ∀ s ∈ ss, s ≠ proceedTls) :
    Quiet me w (w₁.sendList c ss) :=
  h.append rfl (by simpa [Effect.isTls] using hs) rfl

theorem disconnect (h : Quiet me w w₁) (c : Nat) : Quiet me w (w₁.disconnect c) :=
  h.append rfl (by simp [Effect.isTls]) rfl

theorem setClient (h : Quiet me w w₁) (c : Nat) (cl : Client) : Quiet me w (w₁.setClient c cl) :=
  h.of_eq rfl rfl

theorem store (h : Quiet me w w₁) (st : Store) : Quiet me w { w₁ with store := st } :=
  h.of_eq rfl rfl

theorem setState (h : Quiet me w w₁) (c : Nat) (s : State) : Quiet me w (w₁.setState c s) := by
  rcases World.setState_cases w₁ c s with ⟨-, e⟩ | ⟨-, -, e⟩ | ⟨-, -, e⟩ <;> rw [e]
  · exact h
  · exact h.setClient _ _
  · exact (h.setClient _ _).disconnect c

/-- A task for connection `me`. -/
theorem task (h : Quiet me w w₁) {t : Task} (ht : t.conn = me) :
    Quiet me w { w₁ with tasks := w₁.tasks ++ [t] } :=
  h.trans ⟨⟨[], by simp, by simp⟩, ⟨[t], rfl, by simpa using ht⟩⟩

end Quiet

/-! ## No handler writes `<proceed/>` -/

section handlers

variable (cfg : Config) (w : World) (me : Nat) (x : Element) (d : String)

theorem withFrom_tag (jid : String) : (withFrom x jid).tag = x.tag := by
  unfold withFrom; split <;> simp

theorem ctlForward_quiet {w₀ : World} (self : Client) (hx : x.tag = "iq") (h : Quiet me w₀ w) :
    Quiet me w₀ (ctlForward w self x) := by
  unfold ctlForward World.forward
  split
  · exact h
  · dsimp only
    split
    · exact h
    · split
      · exact h
      · rename_i s hs
        obtain ⟨⟨r, hr⟩, -⟩ := forwarded_lt_i ((withFrom_tag x _).trans hx) hs
        exact h.sendAll _ (lt_i_ne_proceedTls hr)

theorem handleCtl_quiet (hx : x.tag = "iq") : Quiet me w (handleCtl w me x d) := by
  unfold handleCtl
  dsimp only
  have reply := (Quiet.refl w : Quiet me w w).send me (featureNotImplemented_ne x)
  exact .ite_of reply <| .ite_of reply <| .ite_of reply <|
    ctlForward_quiet _ me x _ hx (.ite_of ((Quiet.refl w).send _ (rlAck_ne _ _)) (.refl w))

theorem handlePing_quiet (hx : x.tag = "iq") : Quiet me w (handlePing w me x) := by
  unfold handlePing World.forward
  dsimp only
  split
  · exact (Quiet.refl w).send _ (pingReply_ne x)
  · split
    · exact .refl w
    · rename_i s hs
      obtain ⟨-, r, hr⟩ := forwarded_lt_i ((withFrom_tag x _).trans hx) hs
      exact (Quiet.refl w).sendAll _ (lt_i_ne_proceedTls hr)

theorem enrol_quiet : Quiet me w (enrol cfg w me x) := by
  unfold enrol
  dsimp only
  split
  · split
    · exact .refl w
    · split
      · split
        · exact .refl w
        · split
          · exact .refl w
          · refine Quiet.sendList ?_ _ (enrolment_ne _ _ _ _)
            exact (Quiet.refl w).of_eq rfl rfl
      · exact .refl w
  · exact .refl w

theorem handleResult_quiet (hx : x.tag = "iq") : Quiet me w (handleResult cfg w me x d) := by
  unfold handleResult resultRoute broadcastDe World.forward
  dsimp only
  split
  · exact enrol_quiet cfg w me x
  · split
    · exact .refl w
    · rename_i s hs
      obtain ⟨⟨r, hr⟩, -⟩ := forwarded_lt_i ((withFrom_tag x _).trans hx) hs
      have hne := lt_i_ne_proceedTls hr
      split <;> split
      all_goals first
        | exact .refl w
        | exact (Quiet.refl w).sendAll _ hne
        | exact ((Quiet.refl w).sendAll _ hne).sendAll _ hne

theorem handleSaslAuth_quiet : Quiet me w (handleSaslAuth cfg w me x) := by
  unfold handleSaslAuth
  split
  · exact .refl w
  · refine .ite_of (.refl w) ?_
    split
    · exact .refl w
    · dsimp only
      split_ifs
      · refine Quiet.setState (Quiet.send (Quiet.setClient (Quiet.store ?_ _) _ _) _ (by decide)) _ _
        exact (Quiet.refl w).setClient _ _
      · refine Quiet.send (Quiet.setState (Quiet.store (Quiet.setClient ?_ _ _) _) _ _) _ (by decide)
        exact (Quiet.refl w).setClient _ _
      · refine Quiet.send ?_ _ (by decide)
        exact (Quiet.refl w).setClient _ _

theorem handleBind_quiet : Quiet me w (handleBind w me x) := by
  unfold handleBind
  dsimp only
  split
  · exact (Quiet.refl w).store _
  · exact ((((Quiet.refl w).store _).setClient _ _).setState _ _).send _ (bindResult_ne _ _)

theorem handleSession_quiet : Quiet me w (handleSession w me x) :=
  Quiet.task (((Quiet.refl w).setState _ _).send _ (sessionResult_ne x))
    (show (Task.ping me 30).conn = me from rfl)

theorem handlePresence_quiet : Quiet me w (handlePresence w me x) := by
  unfold handlePresence
  dsimp only
  have dummy := (Quiet.refl w : Quiet me w w).send me (dummyPresence_ne (w.sessions me).bumperJid)
  exact .ite_of (.ite_of (dummy.send _ (deviceInfo_ne _)) dummy) <| .ite_of dummy <|
    .ite_of ((Quiet.refl w).setState _ _) dummy

theorem handleConnect_quiet (xml : Option Element) : Quiet me w (handleConnect cfg w me d xml) := by
  unfold handleConnect
  dsimp only
  split
  · split
    · split
      · refine Quiet.send (Quiet.send ?_ _ (by decide)) _ (by split <;> decide)
        split
        · exact (Quiet.refl w).setClient _ _
        · exact .refl w
      · exact (Quiet.refl w).send _ (by decide)
    · split
      · exact handleSaslAuth_quiet cfg w me _
      · exact .refl w
  · split
    · split
      · split
        · exact ((Quiet.refl w).send _ (by decide)).send _ (by decide)
        · exact .refl w
      · split
        · exact handleBind_quiet w me _
        · exact .refl w
    · exact .refl w

theorem handleIq_quiet : Quiet me w (handleIq cfg w me x d) := by
  unfold handleIq
  dsimp only
  by_cases hx : x.tag = "iq"
  · rw [if_pos hx]
    have result := handleResult_quiet cfg w me x d hx
    exact .ite_of (handleBind_quiet w me x) <| .ite_of (handleSession_quiet w me x) <|
      .ite_of (handlePing_quiet w me x hx) <| .ite_of (.ite_of result (handleCtl_quiet w me x d hx)) <|
      .ite_of result <| .ite_of result (.refl w)
  · rw [if_neg hx]
    exact .refl w

theorem handleParseError_quiet (msg : String) : Quiet me w (handleParseError cfg w me d msg) := by
  unfold handleParseError
  dsimp only
  have header := handleConnect_quiet cfg w me d none
  have close := (Quiet.refl w : Quiet me w w).send me (show "</stream:stream>" ≠ proceedTls by decide)
  exact .ite_of (.ite_of header (.refl w)) <| .ite_of (.ite_of close (.refl w)) <|
    .ite_of (.ite_of header (.refl w)) <| .ite_of (close.setState _ _) (.refl w)

end handlers

mutual
theorem dispatch_quiet (cfg : Config) (me : Nat) (d : String) :
    ∀ (w : World) (e : Element), Quiet me w (dispatch cfg me d w e)
  | w, ⟨tag, attrib, text, tail, cs⟩ => by
    have list := dispatchList_quiet cfg me d w cs
    have tls : Quiet me w (if (w.sessions me).tlsUpgraded then w
        else { w with tasks := w.tasks ++ [.starttls me] }) :=
      .ite_of (.refl w) (Quiet.task (Quiet.refl w) (show (Task.starttls me).conn = me from rfl))
    unfold dispatch
    exact .ite_of list <| .ite_of (handleIq_quiet cfg w me _ d) <|
      .ite_of (.ite_of (handleSaslAuth_quiet cfg w me _) list) <|
      .ite_of (tls.trans (dispatchList_quiet cfg me d _ cs)) <| .ite_of (handlePresence_quiet w me _) list
theorem dispatchList_quiet (cfg : Config) (me : Nat) (d : String) :
    ∀ (w : World) (es : List Element), Quiet me w (dispatchList cfg me d w es)
  | w, [] => .refl w
  | w, e :: es => (dispatch_quiet cfg me d w e).trans (dispatchList_quiet cfg me d _ es)
end

/-- **No chunk writes `<proceed/>`** or calls `start_tls`, and the only tasks a
chunk creates run for its own connection. -/
theorem dataReceived_quiet (cfg : Config) (w : World) (me : Nat) (data : List UInt8) :
    Quiet me w (dataReceived cfg w me data) := by
  unfold dataReceived parseData
  cases Py.utf8Decode data with
  | none => exact (Quiet.refl w).append rfl (by simp [Effect.isTls]) rfl
  | some text =>
    dsimp only [Option.map_some', Option.getD_some]
    split
    · exact dispatch_quiet cfg me _ w _
    · exact handleParseError_quiet cfg w me _ _


/-- `connection_lost` writes no `<proceed/>` and creates no task. -/
theorem connectionLost_quiet (w : World) (c : Nat) : Quiet c w (connectionLost w c) := by
  unfold connectionLost
  split
  · refine Quiet.setState ?_ c _
    exact (Quiet.refl w).of_eq rfl rfl
  · exact (Quiet.refl w).of_eq rfl rfl

/-! ## Task steps -/

theorem Effect.isTls_proceed (c : Nat) : (Effect.write c proceedTls).isTls = true :=
  beq_self_eq_true _

theorem taskStep_tasks (cfg : Config) (w : World) (t : Task) (ok : Bool) :
    (taskStep cfg w t ok).1.tasks = w.tasks ∧ ∀ t' ∈ (taskStep cfg w t ok).2, t'.conn = t.conn := by
  cases t <;> simp only [taskStep] <;> repeat' split
  all_goals simp [Task.conn]

/-- **One task step**: it writes no `<proceed/>`, calls no `start_tls` and keeps
every client object; or it is the first step of a `_handle_starttls` that finds
the flag not set, sets it, writes `<proceed/>` and, when the certificates load,
calls `start_tls`, all before its first `await`. -/
theorem taskStep_cases (cfg : Config) (w : World) (t : Task) (ok : Bool) :
    ((taskStep cfg w t ok).1.sessions = w.sessions ∧
      ∃ es, (taskStep cfg w t ok).1.effects = w.effects ++ es ∧ ∀ e ∈ es, e.isTls = false) ∨
    ∃ c, t = .starttls c ∧ (w.sessions c).tlsUpgraded = false ∧
      (taskStep cfg w t ok).1.sessions = (w.setClient c { w.sessions c with tlsUpgraded := true }).sessions ∧
      (taskStep cfg w t ok).1.effects =
        w.effects ++ .write c proceedTls :: if cfg.certsLoad then [.startTls c] else [] := by
  cases t with
  | starttls c =>
    simp only [taskStep]
    split
    · exact .inl ⟨rfl, [], by simp, by simp⟩
    · rename_i hc
      refine .inr ⟨c, rfl, by simpa using hc, ?_, ?_⟩ <;> split <;> simp [proceedTls]
  | handshake c =>
    simp only [taskStep]
    split
    · exact .inl ⟨rfl, [.replaceTransport c], rfl, by simp [Effect.isTls]⟩
    · exact .inl ⟨rfl, [], by simp, by simp⟩
  | ping c time =>
    simp only [taskStep]
    split
    · exact .inl ⟨rfl, [], by simp, by simp⟩
    · exact .inl ⟨rfl, [.write c _], rfl, by simp [Effect.isTls, pingStanza_ne]⟩
  | pingSleep => exact .inl ⟨rfl, [], (List.append_nil _).symm, by simp⟩

/-! ## At most one TLS upgrade -/

/-- Moves never clear the TLS flag. -/
theorem Move.tls_mono {cl cl' : Client} (h : Move cl cl') (ht : cl.tlsUpgraded = true) :
    cl'.tlsUpgraded = true := by
  cases h with
  | bind b hb =>
    obtain ⟨jid, res, rfl, -⟩ := bound_eq_some hb
    split <;> exact ht
  | tls => rfl
  | _ => exact ht

theorem Moves.tls_mono {cl cl' : Client} (h : Moves cl cl') : cl.tlsUpgraded = true → cl'.tlsUpgraded = true :=
  Moves.preserve Move.tls_mono h

theorem count_append_of_quiet {l es : List Effect} (hq : ∀ e ∈ es, e.isTls = false) {e : Effect}
    (he : e.isTls = true) : (l ++ es).count e = l.count e := by
  have h0 : es.count e = 0 := List.count_eq_zero.2 fun hm => by simp [hq e hm] at he
  rw [List.count_append, h0, Nat.add_zero]

/-- Each connection has written `<proceed/>` and called `start_tls` at most once,
and not at all while its flag is not set; connections not made yet have the flag
not set, and every pending task runs for a connection made. -/
structure TlsInv (w : World) : Prop where
  proceed : ∀ c, w.effects.count (.write c proceedTls) ≤ (w.sessions c).tlsUpgraded.toNat
  startTls : ∀ c, w.effects.count (.startTls c) ≤ (w.sessions c).tlsUpgraded.toNat
  fresh : ∀ c, w.accepted ≤ c → (w.sessions c).tlsUpgraded = false
  tasks : ∀ t ∈ w.tasks, t.conn < w.accepted

namespace TlsInv

variable {w w' : World}

/-- No step clears a flag. -/
theorem tls_step (h : TlsInv w) (cfg : Config) (e : Event) {c : Nat}
    (hc : (w.sessions c).tlsUpgraded = true) : ((Bumper.step cfg w e).sessions c).tlsUpgraded = true := by
  rcases step_session cfg w e c with hm | ⟨rfl, -⟩
  · exact hm.tls_mono hc
  · have hne : c ≠ w.accepted := fun hca => by rw [h.fresh c hca.ge] at hc; cases hc
    simpa [Bumper.step, hne] using hc

/-- Effects appended that are not TLS ones, under flags that only get set. -/
theorem of_effects (h : TlsInv w) (he : ∃ es, w'.effects = w.effects ++ es ∧ ∀ e ∈ es, e.isTls = false)
    (hmono : ∀ c, (w.sessions c).tlsUpgraded = true → (w'.sessions c).tlsUpgraded = true)
    (hfresh : ∀ c, w'.accepted ≤ c → (w'.sessions c).tlsUpgraded = false)
    (htasks : ∀ t ∈ w'.tasks, t.conn < w'.accepted) : TlsInv w' := by
  obtain ⟨es, he, hq⟩ := he
  have hle : ∀ c, (w.sessions c).tlsUpgraded.toNat ≤ (w'.sessions c).tlsUpgraded.toNat := fun c =>
    Bool.toNat_le_toNat (Bool.le_iff_imp.2 (hmono c))
  refine ⟨fun c => ?_, fun c => ?_, hfresh, htasks⟩
  · rw [he, count_append_of_quiet hq (Effect.isTls_proceed c)]
    exact (h.proceed c).trans (hle c)
  · rw [he, count_append_of_quiet hq (show (Effect.startTls c).isTls = true from rfl)]
    exact (h.startTls c).trans (hle c)

/-- A change quiet for an open connection `me` that moves no other session. -/
theorem of_quiet {me : Nat} (h : TlsInv w) (hq : Quiet me w w') (hme : me < w.accepted)
    (hacc : w'.accepted = w.accepted) (hothers : ∀ d, d ≠ me → w'.sessions d = w.sessions d)
    (hmono : ∀ c, (w.sessions c).tlsUpgraded = true → (w'.sessions c).tlsUpgraded = true) :
    TlsInv w' := by
  obtain ⟨ts, hts, hconn⟩ := hq.tasks
  refine h.of_effects hq.effects hmono (fun d hd => ?_) (fun t ht => ?_) <;> rw [hacc] at *
  · rw [hothers d (by omega)]
    exact h.fresh d hd
  · rcases List.mem_append.1 (hts ▸ ht) with ht | ht
    · exact h.tasks t ht
    · exact hconn t ht ▸ hme

theorem runTask (h : TlsInv w) (cfg : Config) (i : Nat) (ok : Bool) : TlsInv (Bumper.runTask cfg w i ok) := by
  unfold Bumper.runTask
  split
  · exact h
  · rename_i t ht
    dsimp only
    have hlt := h.tasks t (List.get?_mem ht)
    have h₀ : TlsInv { w with tasks := w.tasks.eraseIdx i } :=
      ⟨h.proceed, h.startTls, h.fresh, fun t' ht' => h.tasks t' (List.mem_of_mem_eraseIdx ht')⟩
    have hts := taskStep_tasks cfg { w with tasks := w.tasks.eraseIdx i } t ok
    have hacc := (taskStep_frame cfg { w with tasks := w.tasks.eraseIdx i } t ok).2.2.1
    have hcases := taskStep_cases cfg { w with tasks := w.tasks.eraseIdx i } t ok
    generalize taskStep cfg { w with tasks := w.tasks.eraseIdx i } t ok = r at hts hacc hcases ⊢
    have htasks : ∀ t' ∈ r.1.tasks ++ r.2, t'.conn < r.1.accepted := by
      intro t' ht'
      rw [hacc]
      rcases List.mem_append.1 ht' with ht' | ht'
      · exact h₀.tasks t' (hts.1 ▸ ht')
      · exact hts.2 t' ht' ▸ hlt
    rcases hcases with ⟨hs, he⟩ | ⟨c, rfl, hc, hs, he⟩
    · refine h₀.of_effects he (fun c hc => ?_) (fun c hc => ?_) htasks <;> dsimp only at hc ⊢ <;> rw [hs]
      · exact hc
      · exact h.fresh c (hacc ▸ hc)
    · have hp : w.effects.count (.write c proceedTls) = 0 := by
        have := h.proceed c; rw [hc] at this; simpa using this
      have hs' : w.effects.count (.startTls c) = 0 := by
        have := h.startTls c; rw [hc] at this; simpa using this
      refine ⟨fun d => ?_, fun d => ?_, fun d hd => ?_, htasks⟩
      · dsimp only
        rw [hs, he]
        by_cases hd : d = c
        · subst hd; split <;> simp [List.count_cons, hp]
        · split <;> simp [List.count_cons, hd, h.proceed d]
      · dsimp only
        rw [hs, he]
        by_cases hd : d = c
        · subst hd; split <;> simp [List.count_cons, hs']
        · split <;> simp [List.count_cons, hd, h.startTls d]
      · have hlt : c < w.accepted := hlt
        have hacc : r.1.accepted = w.accepted := hacc
        dsimp only at hd ⊢
        rw [hacc] at hd
        rw [hs, World.setClient_sessions, if_neg (by omega)]
        exact h.fresh d hd

/-- **One event keeps the invariant.** A chunk and a lost connection are quiet
for their open connection, a task step is `runTask`, an accept makes a fresh
session and the shutdown only closes transports. -/
theorem step (h : TlsInv w) (cfg : Config) (e : Event) : TlsInv (Bumper.step cfg w e) := by
  have hmono := fun c => @tls_step w h cfg e c
  cases e with
  | accept =>
    refine h.of_effects ⟨[], (List.append_nil _).symm, by simp⟩ hmono (fun c hc => ?_) (fun t ht => ?_)
    · rw [Bumper.step, acceptConnection_accepted] at hc
      rw [Bumper.step, acceptConnection_sessions, if_neg (by omega)]
      exact h.fresh c (by omega)
    · exact Nat.lt_succ_of_lt (h.tasks t ht)
  | data c chunk =>
    by_cases ho : w.isOpen c = true <;> simp only [Bumper.step, ho, if_true, if_false] at hmono ⊢
    · have hl := dataReceived_local cfg w c chunk
      exact h.of_quiet (dataReceived_quiet cfg w c chunk) (by simp [World.isOpen] at ho; exact ho.1)
        hl.accepted hl.others hmono
    · exact h
  | lost c =>
    by_cases ho : w.isOpen c = true <;> simp only [Bumper.step, ho, if_true, if_false] at hmono ⊢
    · exact h.of_quiet ((connectionLost_quiet w c).of_eq rfl rfl) (by simp [World.isOpen] at ho; exact ho.1)
        (callConnectionLost_accepted w c) (fun d hd => callConnectionLost_sessions w hd) hmono
    · exact h
  | task i ok => exact h.runTask cfg i ok
  | shutdown =>
    obtain ⟨st, hst⟩ := foldl_disconnect w.clients w
    simp only [Bumper.step, serverDisconnect, hst] at hmono ⊢
    exact h.of_effects ⟨_, rfl, by simp [Effect.isTls]⟩ hmono h.fresh h.tasks

/-- Flags set stay set over every run. -/
theorem run_tls (h : TlsInv w) (cfg : Config) (es : List Event) {c : Nat}
    (hc : (w.sessions c).tlsUpgraded = true) : ((run cfg w es).sessions c).tlsUpgraded = true := by
  induction es generalizing w with
  | nil => exact hc
  | cons e es ih => exact ih (h.step cfg e) (h.tls_step cfg e hc)

end TlsInv

theorem Reachable.tlsInv {cfg : Config} {st : Store} {uuids : Nat → String} {w : World}
    (h : Reachable cfg (World.initial st uuids) w) : TlsInv w := by
  induction h with
  | init => exact ⟨fun _ => by simp [World.initial], fun _ => by simp [World.initial], fun _ _ => rfl,
      fun _ h => by simp [World.initial] at h⟩
  | step e _ ih => exact ih.step cfg e

/-- **STARTTLS at most once.** However many `starttls` elements a session sends,
in however many chunks, and however the `_handle_starttls` tasks interleave with
later chunks, other sessions and the ping loops, each connection has been sent
`<proceed/>` at most once and `loop.start_tls` called for it at most once, and its
TLS flag, once set, stays set for the rest of the run. -/
theorem starttls_at_most_once (cfg : Config) (st : Store) (uuids : Nat → String) (evs evs' : List Event)
    (c : Nat) :
    (run cfg (World.initial st uuids) evs).effects.count (.write c proceedTls) ≤ 1 ∧
    (run cfg (World.initial st uuids) evs).effects.count (.startTls c) ≤ 1 ∧
    (((run cfg (World.initial st uuids) evs).sessions c).tlsUpgraded = true →
      ((run cfg (World.initial st uuids) (evs ++ evs')).sessions c).tlsUpgraded = true) := by
  have h := (reachable_run cfg (World.initial st uuids) evs).tlsInv
  refine ⟨(h.proceed c).trans (Bool.toNat_le _), (h.startTls c).trans (Bool.toNat_le _), fun ht => ?_⟩
  rw [run_append]
  exact h.run_tls cfg evs' ht

end Bumper
