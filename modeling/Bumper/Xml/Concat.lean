import Bumper.Xml.Parse

/-!
# Bumper — one document read as two

`parse_data` wraps every chunk in `<root>…</root>` and parses it on its own. This
module relates reading `<root>` a b `</root>` to reading `<root>` a `</root>` and
`<root>` b `</root>`: when both parse and no character data stands before b's first
element, the document of the two is b's document element with a's text and with
a's children before its own.

The proof runs the parser through b twice: from the state after `<root>`, and
from the state after `<root>` a. Until b completes a tag, the second run differs
from the first only in what a left in the document element, flushed or still
pending (`Fresh`). From then on it is the first run with a's content put into the
document element (`Parser.prefixed`), and every character keeps it so
(`Settled.feedChar`). A run that leaves `Fresh` any other way has read character
data before b's first element, and its document element keeps a text to the end
(`RootText`, an instance of the invariant `Bottom` of the document element's frame).

Main results:

* `Bottom.feed` — what a run keeps of the document element's frame;
* `Settled.feed` — from a settled state, the run through a b mirrors the run through b;
* `Fresh.feed` — the three ways the two runs can go;
* `fromstring_root_append` — the document of two chunks.
-/

namespace Bumper.Xml

-- ---------------------------------------------------------------------------
-- One character, one token
-- ---------------------------------------------------------------------------

theorem bind_eq_ok {α β : Type} {x : Except XmlError α} {f : α → Except XmlError β} {b : β} :
    x >>= f = .ok b ↔ ∃ a, x = .ok a ∧ f a = .ok b := by
  cases x <;> simp [bind, Except.bind]

theorem feedChar_eq_ok {p p' : Parser} {c : Char} :
    feedChar p c = .ok p' ↔ ∃ t, scan p.lex c = .ok t ∧ build p t = .ok p' :=
  bind_eq_ok

theorem feed_cons_eq_ok {p q : Parser} {c : Char} {cs : List Char} :
    feed p (c :: cs) = .ok q ↔ ∃ p', feedChar p c = .ok p' ∧ feed p' cs = .ok q :=
  bind_eq_ok

theorem feed_cons_go {p : Parser} {c : Char} {l : Lex} (cs : List Char)
    (h : scan p.lex c = .ok (.go l)) : feed p (c :: cs) = feed { p with lex := l } cs := by
  simp only [feed, feedChar, h]; rfl

theorem feed_cons_error {p : Parser} {c : Char} {e : XmlError} (cs : List Char)
    (h : scan p.lex c = .error e) : feed p (c :: cs) = .error e := by
  simp only [feed, feedChar, h]; rfl

/-- The reader is past the document element: after it, or in markup or a token
that stands after it. -/
inductive Lex.PastRoot : Lex → Prop
  | epilog : Lex.PastRoot .epilog
  | ltEpilog : Lex.PastRoot .ltEpilog
  | bang : Lex.PastRoot (.bang .epilog)
  | decl : Lex.PastRoot (.decl .epilog)
  | declPercent : Lex.PastRoot (.declPercent .epilog)
  | commentOpen : Lex.PastRoot (.commentOpen .epilog)
  | comment (d : Nat) : Lex.PastRoot (.comment .epilog d)
  | piStart : Lex.PastRoot (.piStart .epilog)
  | piTarget (t : List Char) : Lex.PastRoot (.piTarget .epilog t)
  | piData (t : List Char) (q : Bool) : Lex.PastRoot (.piData .epilog t q)
  | piQuest (t : List Char) : Lex.PastRoot (.piQuest .epilog t)
  | lit (dq : Bool) : Lex.PastRoot (.lit .epilog dq)
  | litEnd : Lex.PastRoot (.litEnd .epilog)
  | percent : Lex.PastRoot (.percent .epilog)
  | percentName : Lex.PastRoot (.percentName .epilog)
  | pound : Lex.PastRoot (.pound .epilog)
  | poundName : Lex.PastRoot (.poundName .epilog)
  | rsqb : Lex.PastRoot (.rsqb .epilog)
  | rsqb2 : Lex.PastRoot (.rsqb2 .epilog)
  | rpar : Lex.PastRoot (.rpar .epilog)
  | tokName (k : NameTok) : Lex.PastRoot (.tokName .epilog k)

/-- What the reader may do past the document element: refuse the character, or
move to a state still past it. -/
def StaysPast (r : Except XmlError Token) : Prop := ∀ t, r = .ok t → ∃ l, t = .go l ∧ l.PastRoot

theorem StaysPast.ite {c : Prop} [Decidable c] {a b : Except XmlError Token}
    (ha : StaysPast a) (hb : StaysPast b) : StaysPast (if c then a else b) := by
  split <;> assumption

theorem StaysPast.error (e : XmlError) : StaysPast (.error e) := fun _ h => by cases h

theorem StaysPast.go {l : Lex} (hl : l.PastRoot) : StaysPast (.ok (.go l)) :=
  fun _ h => ⟨l, (Except.ok.inj h).symm, hl⟩

/-- Past the document element only the reader state moves. -/
theorem scan_pastRoot {l : Lex} {c : Char} {t : Token} (hl : l.PastRoot)
    (h : scan l c = .ok t) : ∃ l', t = .go l' ∧ l'.PastRoot := by
  suffices StaysPast (scan l c) from this t h
  cases hl
  case tokName k => cases k <;> simp only [scan, nameTok] <;>
    repeat' first | apply StaysPast.ite | apply StaysPast.error | exact StaysPast.go (.tokName _)
  all_goals simp only [scan, outside, piEnd, reduceCtorEq, if_false]
  all_goals repeat' first | apply StaysPast.ite | apply StaysPast.error | exact StaysPast.go (by constructor)

/-- In character data the reader state only matters to a LF after a CR and to a
`>` after `]]`; from the state after markup, every other character is data. -/
theorem scan_content_fresh {c : Char} {t : Token} (cr : Bool) (k : Nat)
    (h : scan (.content false 0) c = .ok t) : (∃ d l, t = .text [d] l) ∨ scan (.content cr k) c = .ok t := by
  by_cases h1 : c = '<'
  · simp_all [scan]
  by_cases h2 : c = '&'
  · simp_all [scan]
  simp only [scan, h1, h2, if_false, Bool.and_false, Bool.false_eq_true, decide_False] at h
  split_ifs at h <;> cases h <;> exact .inl ⟨_, _, rfl⟩

-- ---------------------------------------------------------------------------
-- The tree builder
-- ---------------------------------------------------------------------------

@[simp] theorem Frame.flush_nil (f : Frame) : f.flush [] = f := rfl

@[simp] theorem flush_nil (st : List Frame) : flush [] st = st := by cases st <;> rfl

@[simp] theorem length_flush (p : List Char) (st : List Frame) :
    (flush p st).length = st.length := by
  cases st <;> rfl

/-- A frame without its content: what its start tag made of it. -/
def Frame.blank (f : Frame) : Frame := { f with text := none, children := [] }

@[simp] theorem Frame.blank_flush (f : Frame) (p : List Char) : (f.flush p).blank = f.blank := by
  cases p with
  | nil => rfl
  | cons c cs => simp only [Frame.flush]; split <;> rfl

theorem outerScope_flush (p : List Char) (st : List Frame) :
    outerScope (flush p st) = outerScope st := by
  cases st with
  | nil => rfl
  | cons f fs => show (f.flush p).blank.scope = f.blank.scope; rw [f.blank_flush]

theorem endElement_eq_ok {p q : Parser} {n : List Char} (h : endElement p n = .ok q) :
    ∃ f fs, flush p.pending p.stack = f :: fs ∧ f.rawName = n ∧
      ((fs = [] ∧ q = ⟨.epilog, [], [], some f.toElement⟩) ∨
       ∃ g gs, fs = g :: gs ∧
         q = ⟨.content false 0, [], { g with children := g.children ++ [f.toElement] } :: gs, p.root⟩) := by
  unfold endElement at h
  split at h
  · cases h
  · rename_i f fs hfl
    split_ifs at h with hn
    refine ⟨f, fs, hfl, not_not.1 hn, ?_⟩
    cases fs with
    | nil => exact .inl ⟨rfl, (Except.ok.inj h).symm⟩
    | cons g gs => exact .inr ⟨g, gs, rfl, (Except.ok.inj h).symm⟩

theorem openFrame_eq_ok {o : Scope} {n : List Char} {as : List (List Char × String)} {f : Frame}
    (h : openFrame o n as = .ok f) : f.rawName = n ∧ f.children = [] := by
  simp only [openFrame, bind, Except.bind] at h
  split at h
  · cases h
  · split at h
    · cases h
    · split at h
      · cases h
      · cases h; exact ⟨rfl, rfl⟩

theorem startElement_eq_ok {p q : Parser} {n : List Char} {as : List (List Char × String)}
    {em : Bool} (h : startElement p n as em = .ok q) :
    ∃ f, f.rawName = n ∧ f.children = [] ∧ openFrame (outerScope p.stack) n as = .ok f ∧
      ((em = false ∧ q = ⟨.content false 0, [], f :: flush p.pending p.stack, p.root⟩) ∨
       (em = true ∧ endElement ⟨.content false 0, [], f :: flush p.pending p.stack, p.root⟩ n = .ok q)) := by
  obtain ⟨f, hf, hq⟩ := bind_eq_ok.1 h
  refine ⟨f, (openFrame_eq_ok hf).1, (openFrame_eq_ok hf).2, hf, ?_⟩
  cases em
  · exact .inl ⟨rfl, (Except.ok.inj hq).symm⟩
  · exact .inr ⟨rfl, hq⟩

/-- The start and end tag handlers read the stack only through its flushed form
and the bindings in force. -/
theorem startElement_congr {p r : Parser} (hf : flush p.pending p.stack = flush r.pending r.stack)
    (ho : outerScope p.stack = outerScope r.stack) (hr : p.root = r.root)
    (n : List Char) (as : List (List Char × String)) (em : Bool) :
    startElement p n as em = startElement r n as em := by
  simp only [startElement, endElement, hf, ho, hr]

theorem endElement_congr {p r : Parser} (hf : flush p.pending p.stack = flush r.pending r.stack)
    (hr : p.root = r.root) (n : List Char) : endElement p n = endElement r n := by
  simp only [endElement, hf, hr]

-- ---------------------------------------------------------------------------
-- The document element's frame
-- ---------------------------------------------------------------------------

/-- What a property of the document element's frame needs to survive a run: it
holds after more pending text is flushed into the frame, after a child is added,
and, as `Q`, of the element the frame becomes. -/
structure Keeps (P : Frame → Prop) (Q : Element → Prop) : Prop where
  flushed : ∀ (g : Frame) (p : List Char) (d : Char), P (g.flush p) → P (g.flush (p ++ [d]))
  child : ∀ (g : Frame) (e : Element), P g → P { g with children := g.children ++ [e] }
  ended : ∀ g : Frame, P g → Q g.toElement

/-- While the document element is open, `P` holds of its frame once the pending
text is flushed, and there is no document element yet; after its end tag the
reader is past it and `Q` holds of it. -/
def Bottom (P : Frame → Prop) (Q : Element → Prop) (p : Parser) : Prop :=
  (∃ g, (flush p.pending p.stack).getLast? = some g ∧ P g ∧ p.root = none) ∨
  (p.stack = [] ∧ p.lex.PastRoot ∧ ∃ e, p.root = some e ∧ Q e)

section bottom

variable {P : Frame → Prop} {Q : Element → Prop} {p q : Parser}

/-- The frame a child goes to keeps `P` at the bottom. -/
theorem Keeps.getLast?_child (hk : Keeps P Q) {g₀ g : Frame} {gs : List Frame} (e : Element)
    (hg : (g₀ :: gs).getLast? = some g) (hP : P g) :
    ∃ g', ({ g₀ with children := g₀.children ++ [e] } :: gs).getLast? = some g' ∧ P g' := by
  cases gs with
  | nil => cases hg; exact ⟨_, rfl, hk.child _ e hP⟩
  | cons h hs => exact ⟨g, by simpa [List.getLast?_cons_cons] using hg, hP⟩

/-- Flushing one more character keeps `P` at the bottom. -/
theorem Keeps.getLast?_flush (hk : Keeps P Q) {pend : List Char} {st : List Frame} {g : Frame}
    (hg : (flush pend st).getLast? = some g) (hP : P g) (d : Char) :
    ∃ g', (flush (pend ++ [d]) st).getLast? = some g' ∧ P g' := by
  rcases st with _ | ⟨f, _ | ⟨h, hs⟩⟩
  · cases hg
  · simp only [flush, List.getLast?_singleton, Option.some.injEq] at hg
    subst hg
    exact ⟨_, rfl, hk.flushed f pend d hP⟩
  · exact ⟨g, by simpa [flush, List.getLast?_cons_cons] using hg, hP⟩

/-- Flushing more characters keeps `P` at the bottom. -/
theorem Keeps.getLast?_flush_append (hk : Keeps P Q) {pend : List Char} {st : List Frame}
    {g : Frame} (hg : (flush pend st).getLast? = some g) (hP : P g) (ds : List Char) :
    ∃ g', (flush (pend ++ ds) st).getLast? = some g' ∧ P g' := by
  induction ds generalizing pend g with
  | nil => exact ⟨g, by rwa [List.append_nil], hP⟩
  | cons d ds ih =>
    obtain ⟨g', hg', hP'⟩ := hk.getLast?_flush hg hP d
    simpa only [List.append_assoc, List.singleton_append] using ih hg' hP'

theorem Bottom.endElement (hk : Keeps P Q) {g : Frame} {n : List Char}
    (hg : (flush p.pending p.stack).getLast? = some g) (hP : P g) (hr : p.root = none)
    (h : endElement p n = .ok q) : Bottom P Q q := by
  obtain ⟨f, fs, hfl, -, ⟨rfl, rfl⟩ | ⟨g₀, gs, rfl, rfl⟩⟩ := endElement_eq_ok h
  · rw [hfl] at hg; cases hg
    exact .inr ⟨rfl, .epilog, _, rfl, hk.ended _ hP⟩
  · rw [hfl, List.getLast?_cons_cons] at hg
    obtain ⟨g', hg', hP'⟩ := hk.getLast?_child f.toElement hg hP
    exact .inl ⟨g', by simpa using hg', hP', hr⟩

/-- **One character keeps `Bottom`.** -/
theorem Bottom.feedChar (hk : Keeps P Q) (hb : Bottom P Q p) {c : Char}
    (h : Bumper.Xml.feedChar p c = .ok q) : Bottom P Q q := by
  obtain ⟨t, ht, hq⟩ := feedChar_eq_ok.1 h
  rcases hb with ⟨g, hg, hP, hr⟩ | ⟨h0, hl, e, he, hQ⟩
  · cases t with
    | go l => cases hq; exact .inl ⟨g, hg, hP, hr⟩
    | text ds l =>
      cases hq
      obtain ⟨g', hg', hP'⟩ := hk.getLast?_flush_append hg hP ds
      exact .inl ⟨g', hg', hP', hr⟩
    | start n as em =>
      obtain ⟨f, rfl, -, -, ⟨-, rfl⟩ | ⟨-, hq⟩⟩ := startElement_eq_ok hq
      all_goals
        obtain ⟨x, xs, hx⟩ : ∃ x xs, flush p.pending p.stack = x :: xs := by
          cases h : flush p.pending p.stack with
          | nil => simp [h] at hg
          | cons x xs => exact ⟨x, xs, rfl⟩
        have hg' : (flush [] (f :: flush p.pending p.stack)).getLast? = some g := by
          simpa [hx, List.getLast?_cons_cons] using hg
      · exact .inl ⟨g, hg', hP, hr⟩
      · have hr' : (⟨.content false 0, [], f :: flush p.pending p.stack, p.root⟩ : Parser).root = none := hr
        exact Bottom.endElement hk hg' hP hr' hq
    | stop n => exact Bottom.endElement hk hg hP hr hq
  · obtain ⟨l, rfl, hl'⟩ := scan_pastRoot hl ht
    cases hq; exact .inr ⟨h0, hl', e, he, hQ⟩

/-- **A run keeps `Bottom`.** -/
theorem Bottom.feed (hk : Keeps P Q) {cs : List Char} (hb : Bottom P Q p)
    (h : Bumper.Xml.feed p cs = .ok q) : Bottom P Q q := by
  induction cs generalizing p with
  | nil => cases h; exact hb
  | cons c cs ih =>
    obtain ⟨p', h1, h2⟩ := feed_cons_eq_ok.1 h
    exact ih (hb.feedChar hk h1) h2

end bottom

/-- The property of the document element's frame that `<root>` fixes: its name,
tag, attributes and bindings. -/
theorem keeps_blank (f₀ : Frame) :
    Keeps (fun g => g.blank = f₀) (fun e => e.tag = f₀.tag ∧ e.attrib = f₀.attrib) where
  flushed g p d h := by rwa [Frame.blank_flush] at h ⊢
  child _ _ h := h
  ended g h := ⟨by rw [← h]; rfl, by rw [← h]; rfl⟩

/-- The document element has a text: there was character data before its first child. -/
def RootText : Parser → Prop := Bottom (fun g => g.text.isSome) (fun e => e.text.isSome)

theorem keeps_text : Keeps (fun g => g.text.isSome) (fun e => e.text.isSome) where
  flushed g p d h := by
    cases p <;> cases hc : g.children.getLast? <;> simp_all [Frame.flush]
  child _ _ h := h
  ended _ h := h

theorem rootText_of_pending {q : Parser} {g : Frame} (hs : q.stack = [g]) (hc : g.children = [])
    (hp : q.pending ≠ []) (hr : q.root = none) : RootText q := by
  obtain ⟨c, cs, hcs⟩ := List.exists_cons_of_ne_nil hp
  exact .inl ⟨_, by rw [hs]; rfl, by simp [Frame.flush, hcs, hc], hr⟩

-- ---------------------------------------------------------------------------
-- The document element with a's content
-- ---------------------------------------------------------------------------

section prefixed

variable (T : Option String) (CS : List Element)

/-- The document element of b read after a: a's text, and a's children before b's. -/
def Frame.prefixed (f : Frame) : Frame := { f with text := T, children := CS ++ f.children }

/-- The document of b read after a. -/
def Element.prefixed (e : Element) : Element := { e with text := T, children := CS ++ e.children }

/-- A stack whose bottom frame is prefixed. -/
def prefixBase : List Frame → List Frame
  | [] => []
  | [g] => [g.prefixed T CS]
  | f :: g :: gs => f :: prefixBase (g :: gs)

/-- The run through a b where the run through b is at `p`. -/
def Parser.prefixed (p : Parser) : Parser :=
  { p with stack := prefixBase T CS p.stack, root := p.root.map (Element.prefixed T CS) }

end prefixed

/-- The document element holds something of b: a child, or an element open in it. -/
def Grown (st : List Frame) : Prop := 2 ≤ st.length ∨ ∃ g, st = [g] ∧ g.children ≠ []

/-- A state of the run through b that the run through a b mirrors: b has put
something in the document element, or the document element has ended. -/
def Settled (p : Parser) : Prop := Grown p.stack ∨ (p.stack = [] ∧ p.lex.PastRoot)

theorem Grown.ne_nil {st : List Frame} (h : Grown st) : st ≠ [] := by
  rintro rfl; simp [Grown] at h

theorem grown_cons (f : Frame) {st : List Frame} (h : st ≠ []) : Grown (f :: st) := by
  cases st with
  | nil => exact absurd rfl h
  | cons g gs => exact .inl (by simp)

theorem grown_addChild (g : Frame) (gs : List Frame) (e : Element) :
    Grown ({ g with children := g.children ++ [e] } :: gs) := by
  cases gs with
  | nil => exact .inr ⟨_, rfl, by simp⟩
  | cons h hs => exact grown_cons _ (List.cons_ne_nil _ _)

section prefixed_runs

variable {T : Option String} {CS : List Element}

theorem Frame.flush_prefixed {g : Frame} (h : g.children ≠ []) (p : List Char) :
    (g.prefixed T CS).flush p = (g.flush p).prefixed T CS := by
  obtain ⟨l, x, hx⟩ : ∃ l x, g.children = l ++ [x] :=
    ⟨_, _, (List.dropLast_append_getLast h).symm⟩
  cases p with
  | nil => rfl
  | cons c cs => simp [Frame.flush, Frame.prefixed, hx, ← List.append_assoc]

theorem flush_prefixBase {p : List Char} {st : List Frame} (h : Grown st ∨ p = []) :
    flush p (prefixBase T CS st) = prefixBase T CS (flush p st) := by
  rcases h with h | rfl
  · rcases st with _ | ⟨g, _ | ⟨f, fs⟩⟩
    · exact absurd rfl h.ne_nil
    · obtain ⟨_, ⟨⟩, hg⟩ := h.resolve_left (by simp)
      simp only [prefixBase, flush, Frame.flush_prefixed hg]
    · rfl
  · simp

theorem outerScope_prefixBase (st : List Frame) :
    outerScope (prefixBase T CS st) = outerScope st := by
  rcases st with _ | ⟨g, _ | ⟨f, fs⟩⟩ <;> rfl

theorem prefixBase_cons (f : Frame) {st : List Frame} (h : st ≠ []) :
    prefixBase T CS (f :: st) = f :: prefixBase T CS st := by
  cases st with
  | nil => exact absurd rfl h
  | cons g gs => rfl

theorem endElement_prefixed {p q : Parser} {n : List Char} (hfl : Grown p.stack ∨ p.pending = [])
    (h : endElement p n = .ok q) : endElement (p.prefixed T CS) n = .ok (q.prefixed T CS) := by
  obtain ⟨f, fs, hf, rfl, hq⟩ := endElement_eq_ok h
  have hf' : flush (p.prefixed T CS).pending (p.prefixed T CS).stack = prefixBase T CS (f :: fs) :=
    (flush_prefixBase hfl).trans (congrArg _ hf)
  unfold endElement; rw [hf']
  rcases hq with ⟨rfl, rfl⟩ | ⟨g, gs, rfl, rfl⟩
  · simp [prefixBase, Frame.prefixed, Parser.prefixed, Frame.toElement, Element.prefixed]
  · cases gs with
    | nil => simp [prefixBase, Frame.prefixed, Parser.prefixed]
    | cons h hs => simp [prefixBase, Parser.prefixed]

theorem startElement_eq (p : Parser) (n : List Char) (as : List (List Char × String)) (em : Bool) :
    startElement p n as em = openFrame (outerScope p.stack) n as >>= fun f =>
      if em then endElement ⟨.content false 0, [], f :: flush p.pending p.stack, p.root⟩ n
      else .ok ⟨.content false 0, [], f :: flush p.pending p.stack, p.root⟩ := rfl

theorem startElement_prefixed {p q : Parser} {n : List Char} {as : List (List Char × String)}
    {em : Bool} (hne : p.stack ≠ []) (hfl : Grown p.stack ∨ p.pending = [])
    (h : startElement p n as em = .ok q) :
    startElement (p.prefixed T CS) n as em = .ok (q.prefixed T CS) := by
  obtain ⟨f, -, -, hf, hq⟩ := startElement_eq_ok h
  have hX : flush p.pending p.stack ≠ [] := by
    simpa [← List.length_pos] using List.length_pos.2 hne
  have hpush : (⟨.content false 0, [], f :: flush (p.prefixed T CS).pending (p.prefixed T CS).stack,
      (p.prefixed T CS).root⟩ : Parser) =
      Parser.prefixed T CS ⟨.content false 0, [], f :: flush p.pending p.stack, p.root⟩ := by
    show (⟨_, _, f :: flush p.pending (prefixBase T CS p.stack), _⟩ : Parser) = _
    rw [flush_prefixBase hfl, ← prefixBase_cons f hX]; rfl
  rw [startElement_eq, show outerScope (p.prefixed T CS).stack = outerScope p.stack from
    outerScope_prefixBase p.stack, hf]
  show (if em then _ else _) = _
  rw [hpush]
  rcases hq with ⟨rfl, rfl⟩ | ⟨rfl, hq⟩
  · rfl
  · exact endElement_prefixed (.inl (grown_cons f hX)) hq

theorem endElement_settled {p q : Parser} {n : List Char} (h : endElement p n = .ok q) : Settled q := by
  obtain ⟨f, fs, -, -, ⟨rfl, rfl⟩ | ⟨g, gs, rfl, rfl⟩⟩ := endElement_eq_ok h
  · exact .inr ⟨rfl, .epilog⟩
  · exact .inl (grown_addChild g gs f.toElement)

theorem startElement_settled {p q : Parser} {n : List Char} {as : List (List Char × String)}
    {em : Bool} (hne : p.stack ≠ []) (h : startElement p n as em = .ok q) : Settled q := by
  obtain ⟨f, -, -, -, ⟨-, rfl⟩ | ⟨-, hq⟩⟩ := startElement_eq_ok h
  · exact .inl (grown_cons f (by simpa [← List.length_pos] using List.length_pos.2 hne))
  · exact endElement_settled hq

theorem build_prefixed {p q : Parser} {t : Token} (hg : Grown p.stack) (h : build p t = .ok q) :
    build (p.prefixed T CS) t = .ok (q.prefixed T CS) := by
  cases t with
  | go l => cases h; rfl
  | text ds l => cases h; rfl
  | start n as em => exact startElement_prefixed hg.ne_nil (.inl hg) h
  | stop n => exact endElement_prefixed (.inl hg) h

theorem build_settled {p q : Parser} {t : Token} (hg : Grown p.stack) (h : build p t = .ok q) :
    Settled q := by
  cases t with
  | go l => cases h; exact .inl hg
  | text ds l => cases h; exact .inl hg
  | start n as em => exact startElement_settled hg.ne_nil h
  | stop n => exact endElement_settled h

variable (T CS)

/-- **One character from a settled state**: the run through a b takes the same
step, with a's content in the document element. -/
theorem Settled.feedChar {p q : Parser} {c : Char} (hs : Settled p)
    (h : Bumper.Xml.feedChar p c = .ok q) :
    Settled q ∧ Bumper.Xml.feedChar (p.prefixed T CS) c = .ok (q.prefixed T CS) := by
  obtain ⟨t, ht, hq⟩ := feedChar_eq_ok.1 h
  rcases hs with hg | ⟨h0, hl⟩
  · exact ⟨build_settled hg hq, feedChar_eq_ok.2 ⟨t, ht, build_prefixed hg hq⟩⟩
  · obtain ⟨l, rfl, hl'⟩ := scan_pastRoot hl ht
    cases hq
    exact ⟨.inr ⟨h0, hl'⟩, feedChar_eq_ok.2 ⟨_, ht, rfl⟩⟩

/-- **A run from a settled state.** -/
theorem Settled.feed {p q : Parser} {cs : List Char} (hs : Settled p)
    (h : Bumper.Xml.feed p cs = .ok q) :
    Settled q ∧ Bumper.Xml.feed (p.prefixed T CS) cs = .ok (q.prefixed T CS) := by
  induction cs generalizing p with
  | nil => cases h; exact ⟨hs, rfl⟩
  | cons c cs ih =>
    obtain ⟨p', h1, h2⟩ := feed_cons_eq_ok.1 h
    obtain ⟨hs', h1'⟩ := hs.feedChar T CS h1
    obtain ⟨hq, h2'⟩ := ih hs' h2
    exact ⟨hq, feed_cons_eq_ok.2 ⟨_, h1', h2'⟩⟩

/-- The two runs before b has completed a tag: the run through b has an empty
document element `g` and nothing pending; the run through a b has `g` with a's
content once its pending text is flushed. The reader states agree, except that
after character data at the end of a the second run may still drop a LF after a
CR, or refuse a `>` after `]]`. -/
structure Fresh (q q' : Parser) : Prop where
  bottom : ∃ g, q.stack = [g] ∧ g.children = [] ∧ flush q'.pending q'.stack = [g.prefixed T CS]
  pending : q.pending = []
  lex : q'.lex = q.lex ∨ (q.lex = .content false 0 ∧ ∃ cr k, q'.lex = .content cr k)
  root : q.root = none ∧ q'.root = none

/-- **One character from a fresh pair**: the pair stays fresh, or the run through
a b takes the step of a settled state, or b has written text before its first
element. -/
theorem Fresh.feedChar {q q' q₁ : Parser} {c : Char} (hf : Fresh T CS q q')
    (h : Bumper.Xml.feedChar q c = .ok q₁) :
    (∃ q₁', Bumper.Xml.feedChar q' c = .ok q₁' ∧ Fresh T CS q₁ q₁') ∨
    (Settled q₁ ∧ Bumper.Xml.feedChar q' c = .ok (q₁.prefixed T CS)) ∨ RootText q₁ := by
  obtain ⟨⟨g, hs, hc, hfl⟩, hp, hl, hr, hr'⟩ := hf
  obtain ⟨t, ht, hq⟩ := feedChar_eq_ok.1 h
  have ht' : (∃ d l, t = .text [d] l) ∨ scan q'.lex c = .ok t := by
    rcases hl with hl | ⟨hl, cr, k, hl'⟩
    · exact .inr (hl ▸ ht)
    · rw [hl] at ht; rw [hl']; exact scan_content_fresh cr k ht
  have hfl' : flush q'.pending q'.stack = flush (q.prefixed T CS).pending (q.prefixed T CS).stack := by
    simp [Parser.prefixed, hs, hp, hfl, prefixBase]
  have ho : outerScope q'.stack = outerScope (q.prefixed T CS).stack := by
    rw [← outerScope_flush q'.pending, hfl]; simp [Parser.prefixed, hs, prefixBase, outerScope, Frame.prefixed]
  have hroot : q'.root = (q.prefixed T CS).root := by simp [Parser.prefixed, hr, hr']
  have hne : q.stack ≠ [] := by simp [hs]
  cases t with
  | go l =>
    cases hq
    rcases ht' with ⟨d, l, ⟨⟩⟩ | ht'
    exact .inl ⟨_, feedChar_eq_ok.2 ⟨_, ht', rfl⟩, ⟨g, hs, hc, hfl⟩, hp, .inl rfl, hr, hr'⟩
  | text ds l =>
    cases hq
    cases ds with
    | nil =>
      rcases ht' with ⟨d, l', ⟨⟩⟩ | ht'
      refine .inl ⟨_, feedChar_eq_ok.2 ⟨_, ht', rfl⟩, ⟨g, hs, hc, ?_⟩, by simp [hp], .inl rfl, hr, hr'⟩
      simpa only [List.append_nil] using hfl
    | cons d ds => exact .inr (.inr (rootText_of_pending hs hc (by simp) hr))
  | start n as em =>
    rcases ht' with ⟨d, l, ⟨⟩⟩ | ht'
    refine .inr (.inl ⟨startElement_settled hne hq, feedChar_eq_ok.2 ⟨_, ht', ?_⟩⟩)
    show startElement q' n as em = _
    rw [startElement_congr hfl' ho hroot]
    exact startElement_prefixed hne (.inr hp) hq
  | stop n =>
    rcases ht' with ⟨d, l, ⟨⟩⟩ | ht'
    refine .inr (.inl ⟨endElement_settled hq, feedChar_eq_ok.2 ⟨_, ht', ?_⟩⟩)
    show endElement q' n = _
    rw [endElement_congr hfl' hroot]
    exact endElement_prefixed (.inr hp) hq

/-- **A run from a fresh pair.** -/
theorem Fresh.feed {q q' Q : Parser} {cs : List Char} (hf : Fresh T CS q q')
    (h : Bumper.Xml.feed q cs = .ok Q) :
    (∃ Q', Bumper.Xml.feed q' cs = .ok Q' ∧ Fresh T CS Q Q') ∨
    (Settled Q ∧ Bumper.Xml.feed q' cs = .ok (Q.prefixed T CS)) ∨ RootText Q := by
  induction cs generalizing q q' with
  | nil => cases h; exact .inl ⟨q', rfl, hf⟩
  | cons c cs ih =>
    obtain ⟨q₁, h1, h2⟩ := feed_cons_eq_ok.1 h
    rcases hf.feedChar T CS h1 with ⟨q₁', h1', hf₁⟩ | ⟨hs₁, h1'⟩ | hb₁
    · rcases ih hf₁ h2 with ⟨Q', h2', hfQ⟩ | ⟨hsQ, h2'⟩ | hbQ
      · exact .inl ⟨Q', feed_cons_eq_ok.2 ⟨_, h1', h2'⟩, hfQ⟩
      · exact .inr (.inl ⟨hsQ, feed_cons_eq_ok.2 ⟨_, h1', h2'⟩⟩)
      · exact .inr (.inr hbQ)
    · obtain ⟨hsQ, h2'⟩ := hs₁.feed T CS h2
      exact .inr (.inl ⟨hsQ, feed_cons_eq_ok.2 ⟨_, h1', h2'⟩⟩)
    · exact .inr (.inr (Bottom.feed keeps_text hb₁ h2))

end prefixed_runs

-- ---------------------------------------------------------------------------
-- The end of the input
-- ---------------------------------------------------------------------------

theorem close_eq_ok {p : Parser} {e : Element} (h : close p = .ok e) :
    p.lex = .epilog ∧ p.root = some e := by
  unfold close at h
  split at h <;> simp_all

theorem close_prefixed {T : Option String} {CS : List Element} {p : Parser} {e : Element}
    (h : close p = .ok e) : close (p.prefixed T CS) = .ok (e.prefixed T CS) := by
  obtain ⟨hl, hr⟩ := close_eq_ok h
  simp [close, Parser.prefixed, hl, hr]

/-- `</root>` read in character data. -/
theorem feed_root_end {p : Parser} {cr : Bool} {k : Nat} (h : p.lex = .content cr k) :
    feed p "</root>".data = endElement { p with lex := .endName "root".data } "root".data := by
  rcases p with ⟨l, pend, st, r⟩
  cases h
  exact (rfl : _ = endElement _ _ >>= pure).trans (bind_pure _)

theorem cdata_opener_ne_lt (n : Nat) : "CDATA[".data.get? n ≠ some '<' :=
  fun h => absurd (List.get?_mem h) (by decide)

/-- **What a closing `</root>` needs**: that the input so far ends in character
data of the document element, with no other element open; the document is then
that element. In every other reader state `</root>` is refused, or read as the
inside of a comment, a CDATA section, a processing instruction or a literal,
which the end of input then finds unclosed. -/
theorem close_root_end {p : Parser} {e : Element} (h : (feed p "</root>".data >>= close) = .ok e) :
    (∃ cr k, p.lex = .content cr k) ∧
      ∃ f, flush p.pending p.stack = [f] ∧ f.rawName = "root".data ∧ e = f.toElement := by
  rcases p with ⟨l, pend, st, r⟩
  cases l
  case content cr k =>
    obtain ⟨p₇, h₇, hc⟩ := bind_eq_ok.1 h
    rw [feed_root_end rfl] at h₇
    obtain ⟨f, fs, hfl, hn, ⟨rfl, rfl⟩ | ⟨g, gs, rfl, rfl⟩⟩ := endElement_eq_ok h₇
    · exact ⟨⟨cr, k, rfl⟩, f, hfl, hn, (Except.ok.inj hc).symm⟩
    · cases hc
  case attrValue n as a q v cr =>
    by_cases hq : '<' = q
    · subst hq; cases h
    · rw [feed_cons_error _ (by simp [scan, hq, attrChar]; rfl)] at h; cases h
  case comment pl d =>
    by_cases hd : d = 2
    · subst hd; cases h
    · rw [feed_cons_go _ (by simp [scan, hd]; rfl)] at h; cases h
  case cdataOpen n => rw [feed_cons_error _ (by exact if_neg (cdata_opener_ne_lt n))] at h; cases h
  case lit pl dq => cases dq <;> cases h
  case tokName pl k => cases k <;> cases h
  all_goals cases h

-- ---------------------------------------------------------------------------
-- Two chunks
-- ---------------------------------------------------------------------------

/-- The frame `<root>` opens. -/
def rootFrame : Frame := ⟨"root".data, "root", [], none, [], initialScope⟩

/-- Right after `<root>`, its frame is all there is. -/
theorem bottom_rootFrame : Bottom (fun g => g.blank = rootFrame)
    (fun e => e.tag = rootFrame.tag ∧ e.attrib = rootFrame.attrib) ⟨.content false 0, [], [rootFrame], none⟩ :=
  .inl ⟨rootFrame, rfl, rfl, rfl⟩

/-- Reading `<root>` and then the chunk and `</root>`. -/
theorem fromstring_root (t : String) : fromstring ("<root>" ++ t ++ "</root>") =
    feed ⟨.content false 0, [], [rootFrame], none⟩ (t.data ++ "</root>".data) >>= close := by
  rw [fromstring, String.data_append, String.data_append, List.append_assoc, feed_append]
  rfl

/-- **The document element of a wrapped chunk is `<root>`.** -/
theorem fromstring_root_tag {t : String} {r : Element}
    (h : fromstring ("<root>" ++ t ++ "</root>") = .ok r) : r.tag = "root" ∧ r.attrib = [] := by
  rw [fromstring_root] at h
  obtain ⟨q, hq, hc⟩ := bind_eq_ok.1 h
  obtain ⟨-, hr⟩ := close_eq_ok hc
  rcases Bottom.feed (keeps_blank rootFrame) bottom_rootFrame hq with
    ⟨-, -, -, hn⟩ | ⟨-, -, e, he, hQ⟩
  · simp [hn] at hr
  · rw [hr] at he; cases he; exact hQ

/-- After `<root>` a, the pair of runs through b is fresh, with a's content. -/
theorem fresh_root {a : String} {ra : Element} {pa : Parser}
    (hpa : feed ⟨.content false 0, [], [rootFrame], none⟩ a.data = .ok pa)
    (hea : (feed pa "</root>".data >>= close) = .ok ra) :
    Fresh ra.text ra.children ⟨.content false 0, [], [rootFrame], none⟩ pa := by
  obtain ⟨⟨cr, k, hl⟩, fa, hfa, -, rfl⟩ := close_root_end hea
  rcases Bottom.feed (keeps_blank rootFrame) bottom_rootFrame hpa with
    ⟨g, hg, hP, hr⟩ | ⟨h0, -⟩
  · rw [hfa] at hg; cases hg
    have : fa = rootFrame.prefixed fa.text fa.children := by
      cases fa; simp_all [Frame.blank, Frame.prefixed, rootFrame]
    refine ⟨⟨rootFrame, rfl, rfl, ?_⟩, rfl, .inr ⟨rfl, cr, k, hl⟩, rfl, hr⟩
    show flush pa.pending pa.stack = [rootFrame.prefixed fa.text fa.children]
    rw [hfa, ← this]
  · simp [h0, flush] at hfa

/-- **Two chunks in one document.** When `<root>` a `</root>` and `<root>` b `</root>`
parse and b has no character data before its first element, `<root>` a b `</root>`
parses to b's document element with a's text and with a's children before its own. -/
theorem fromstring_root_append {a b : String} {ra rb : Element}
    (ha : fromstring ("<root>" ++ a ++ "</root>") = .ok ra)
    (hb : fromstring ("<root>" ++ b ++ "</root>") = .ok rb) (hbt : rb.text = none) :
    fromstring ("<root>" ++ (a ++ b) ++ "</root>") = .ok (rb.prefixed ra.text ra.children) := by
  rw [fromstring_root] at ha hb ⊢
  rw [feed_append, bind_assoc] at ha
  obtain ⟨pa, hpa, hea⟩ := bind_eq_ok.1 ha
  obtain ⟨qb, hqb, hcb⟩ := bind_eq_ok.1 hb
  rw [String.data_append, List.append_assoc, feed_append, hpa]
  show feed pa (b.data ++ "</root>".data) >>= close = _
  rcases (fresh_root hpa hea).feed _ _ hqb with ⟨_, -, hf⟩ | ⟨-, hq'⟩ | hbad
  · exact absurd hf.root.1 (by simp [(close_eq_ok hcb).2])
  · rw [hq']; exact close_prefixed hcb
  · rcases hbad with ⟨-, -, -, hn⟩ | ⟨-, -, e, he, hQ⟩
    · simp [(close_eq_ok hcb).2] at hn
    · rw [(close_eq_ok hcb).2] at he; cases he; simp [hbt] at hQ

end Bumper.Xml
