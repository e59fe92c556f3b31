import Mathlib.Data.List.Infix
import Bumper.Py.Case

/-!
# Bumper — the Python `str` methods the server uses

`xmppserver.py` works on decoded text with a handful of `str` operations:
`in`, `find`, `startswith`, `replace`, `split`, `lower` and slicing. Each one is
given here as a structurally recursive function on the character list of a
Lean `String`, so that the model evaluates by `decide` and `rfl`, together with
the lemmas the later modules rewrite with; `lower`, with the Unicode tables it
reads, is `Bumper.Py.Case`.
-/

namespace Bumper.Py

/-! ## Prefixes and substrings -/

/-- `p` is a prefix of `xs`. -/
def isPrefix : List Char → List Char → Bool
  | [], _ => true
  | _ :: _, [] => false
  | a :: p, b :: xs => a == b && isPrefix p xs

/-- `sub` occurs in `xs` (Python's `sub in xs`). -/
def containsList (sub : List Char) : List Char → Bool
  | [] => isPrefix sub []
  | x :: xs => isPrefix sub (x :: xs) || containsList sub xs

/-- `sub in s`. -/
def contains (s sub : String) : Bool := containsList sub.data s.data

/-- `s.startswith(p)`. -/
def startswith (s p : String) : Bool := isPrefix p.data s.data

theorem isPrefix_iff : ∀ (p xs : List Char), isPrefix p xs = true ↔ p <+: xs
  | [], xs => by simp [isPrefix]
  | a :: p, [] => by simp [isPrefix]
  | a :: p, b :: xs => by
    simp [isPrefix, isPrefix_iff p xs, List.cons_prefix_cons, and_comm]

theorem startswith_append {s p : String} (t : String) (h : startswith s p = true) :
    startswith (s ++ t) p = true := by
  rw [startswith, isPrefix_iff] at h ⊢
  exact h.trans (List.prefix_append _ _)

theorem containsList_iff (sub : List Char) :
    ∀ xs, containsList sub xs = true ↔ sub <:+: xs
  | [] => by simp [containsList, isPrefix_iff]
  | x :: xs => by
    rw [containsList, Bool.or_eq_true, isPrefix_iff, containsList_iff sub xs,
      List.infix_cons_iff]

/-- `sub in s` is the substring relation on the character lists. -/
theorem contains_iff (s sub : String) : contains s sub = true ↔ sub.data <:+: s.data :=
  containsList_iff _ _

/-- What contains `b` contains every text `b` contains. -/
theorem contains_trans {s a b : String} (hab : contains b a = true) (h : contains s b = true) :
    contains s a = true :=
  (contains_iff _ _).2 (((contains_iff _ _).1 hab).trans ((contains_iff _ _).1 h))

/-- Texts that start with different characters are not prefixes of each other. -/
theorem isPrefix_eq_false_of_head {p xs : List Char} {a b : Char} (hp : p.head? = some a)
    (hx : xs.head? = some b) (h : a ≠ b) : isPrefix p xs = false := by
  cases p <;> cases xs <;> simp_all [isPrefix]

/-- What contains `a ++ b` contains `a`. -/
theorem contains_of_contains_append {s a b : String} (h : contains s (a ++ b) = true) :
    contains s a = true :=
  (contains_iff _ _).2 ((List.prefix_append _ _).isInfix.trans (by simpa using (contains_iff _ _).1 h))

/-- What occurs in neither part of `s ++ t` occurs in neither. -/
theorem contains_append_eq_false {s t sub : String} (h : contains (s ++ t) sub = false) :
    contains s sub = false ∧ contains t sub = false := by
  simp only [← Bool.not_eq_true, contains_iff] at h ⊢
  exact ⟨fun hs => h (hs.trans (List.prefix_append _ _).isInfix),
    fun ht => h (ht.trans (List.suffix_append _ _).isInfix)⟩

/-- A prefix that lacks `c` ends before it. -/
theorem isPrefix_append_cons {m l₁ l₂ : List Char} {c : Char} (hc : c ∉ m) :
    isPrefix m (l₁ ++ c :: l₂) = isPrefix m l₁ := by
  induction l₁ generalizing m with
  | nil =>
    cases m with
    | nil => rfl
    | cons a m => simp [isPrefix]; rintro rfl; simp at hc
  | cons x xs ih =>
    cases m with
    | nil => rfl
    | cons a m => simp [isPrefix, ih (List.not_mem_of_not_mem_cons hc)]

/-- A non-empty text without `c` occurs in `l₁ ++ c :: l₂` only within one side. -/
theorem containsList_append_cons {m l₁ l₂ : List Char} {c : Char} (hm : m ≠ []) (hc : c ∉ m) :
    containsList m (l₁ ++ c :: l₂) = (containsList m l₁ || containsList m l₂) := by
  induction l₁ with
  | nil =>
    obtain ⟨a, m, rfl⟩ := List.exists_cons_of_ne_nil hm
    have : a ≠ c := fun h => hc (h ▸ List.mem_cons_self a m)
    simp [containsList, isPrefix, this]
  | cons x xs ih =>
    rw [List.cons_append, containsList, containsList, ← List.cons_append, isPrefix_append_cons hc, ih,
      Bool.or_assoc]

/-- `"".join(ts)` of a non-empty list. -/
theorem join_cons (t : String) (ts : List String) : String.join (t :: ts) = t ++ String.join ts := by
  suffices h : ∀ acc, ts.foldl (· ++ ·) acc = acc ++ ts.foldl (· ++ ·) "" by
    simp only [String.join, List.foldl_cons, String.empty_append]; exact h t
  induction ts with
  | nil => simp
  | cons u us ih => intro acc; simp only [List.foldl_cons, String.empty_append, ih (acc ++ u), ih u,
      String.append_assoc]

/-! ## `find` -/

/-- Index of the first occurrence of `sub` in `xs`. -/
def findList (sub : List Char) : List Char → Option Nat
  | [] => if isPrefix sub [] then some 0 else none
  | x :: xs => if isPrefix sub (x :: xs) then some 0 else (findList sub xs).map (· + 1)

/-- `s.find(sub)`: the index of the first occurrence, or `-1`. -/
def find (s sub : String) : Int :=
  match findList sub.data s.data with
  | some i => i
  | none => -1

/-- The scan of `str.replace(old, new)` for a non-empty `old`: `skip` counts the
characters of the last match still to be passed over. -/
def replaceScan (old new : List Char) : Nat → List Char → List Char
  | _, [] => []
  | skip + 1, _ :: xs => replaceScan old new skip xs
  | 0, x :: xs =>
    if isPrefix old (x :: xs) then new ++ replaceScan old new (old.length - 1) xs
    else x :: replaceScan old new 0 xs

/-- `new` before every character and at the end: `str.replace("", new)`. -/
def interleave (new : List Char) : List Char → List Char
  | [] => new
  | x :: xs => new ++ x :: interleave new xs

/-- `s.replace(old, new)`: every non-overlapping occurrence of `old`, scanning
left to right, is replaced by `new`. -/
def replace (s old new : String) : String :=
  ⟨if old.data = [] then interleave new.data s.data else replaceScan old.data new.data 0 s.data⟩

/-- Without an occurrence of `old` the scan copies the text. -/
theorem replaceScan_of_containsList {old new : List Char} :
    ∀ xs, containsList old xs = false → replaceScan old new 0 xs = xs
  | [], _ => rfl
  | x :: xs, h => by
    rw [containsList, Bool.or_eq_false_iff] at h
    rw [replaceScan, if_neg (by simp [h.1]), replaceScan_of_containsList xs h.2]

/-- `s.replace(old, new)` leaves a text without `old` as it is. -/
theorem replace_of_contains_false {s old : String} (new : String) (h : contains s old = false) :
    replace s old new = s := by
  have hold : old.data ≠ [] := by
    intro h0
    cases hs : s.data <;> simp [contains, h0, hs, containsList, isPrefix] at h
  show String.mk (if old.data = [] then _ else _) = s
  rw [if_neg hold, replaceScan_of_containsList _ h]

/-- With `new` at least as long as `old` the scan does not shorten the text: what
it skips after a match belongs to the match. -/
theorem length_replaceScan {old new : List Char} (hold : old ≠ []) (hl : old.length ≤ new.length) :
    ∀ k xs, xs.length ≤ (replaceScan old new k xs).length + k
  | _, [] => Nat.zero_le _
  | k + 1, x :: xs => by
    have := length_replaceScan hold hl k xs
    simp only [replaceScan, List.length_cons]
    omega
  | 0, x :: xs => by
    simp only [replaceScan]
    split
    · rename_i hp
      have h1 := length_replaceScan hold hl (old.length - 1) xs
      have h2 := ((isPrefix_iff _ _).1 hp).length_le
      have h3 := List.length_pos.2 hold
      simp only [List.length_append, List.length_cons] at h1 h2 ⊢
      omega
    · have := length_replaceScan hold hl 0 xs
      simp only [List.length_cons]
      omega

/-- With `new` longer than `old` the scan lengthens every text that has `old`. -/
theorem length_replaceScan_lt {old new : List Char} (hold : old ≠ []) (hl : old.length < new.length) :
    ∀ xs, containsList old xs = true → xs.length < (replaceScan old new 0 xs).length
  | [], h => by
    obtain ⟨a, p, rfl⟩ := List.exists_cons_of_ne_nil hold
    simp [containsList, isPrefix] at h
  | x :: xs, h => by
    simp only [replaceScan]
    split
    · rename_i hp
      have h1 := length_replaceScan hold hl.le (old.length - 1) xs
      have h2 := ((isPrefix_iff _ _).1 hp).length_le
      have h3 := List.length_pos.2 hold
      simp only [List.length_append, List.length_cons] at h1 h2 ⊢
      omega
    · rename_i hp
      have := length_replaceScan_lt hold hl xs (by simpa [containsList, hp] using h)
      simp only [List.length_cons]
      omega

/-- `s.replace(old, new)` with a longer `new` changes every text that has `old`. -/
theorem replace_ne_of_contains {s old new : String} (hold : old.data ≠ [])
    (hl : old.data.length < new.data.length) (h : contains s old = true) : replace s old new ≠ s := by
  intro he
  have hlen := length_replaceScan_lt hold hl s.data h
  have hd := congrArg (fun t => t.data.length) he
  simp only [replace, if_neg hold] at hd
  omega

/-! ## `split` on one character -/

/-- `xs.split(sep)` for a one-character separator. -/
def splitList (sep : Char) : List Char → List (List Char)
  | [] => [[]]
  | c :: cs =>
    if c = sep then [] :: splitList sep cs
    else match splitList sep cs with
      | [] => [[c]]
      | f :: fs => (c :: f) :: fs

/-- `s.split(sep)` for a one-character separator. -/
def split (s : String) (sep : Char) : List String :=
  (splitList sep s.data).map String.mk

/-- Without the separator there is one field. -/
theorem splitList_of_not_mem {sep : Char} : ∀ {xs : List Char}, sep ∉ xs → splitList sep xs = [xs]
  | [], _ => rfl
  | c :: cs, h => by
    rw [List.mem_cons, not_or] at h
    rw [splitList, if_neg (Ne.symm h.1), splitList_of_not_mem h.2]

/-- A first field without the separator, then the separator. -/
theorem splitList_append_sep {sep : Char} (ys : List Char) : ∀ {xs : List Char}, sep ∉ xs →
    splitList sep (xs ++ sep :: ys) = xs :: splitList sep ys
  | [], _ => by rw [List.nil_append, splitList, if_pos rfl]
  | c :: cs, h => by
    rw [List.mem_cons, not_or] at h
    rw [List.cons_append, splitList, if_neg (Ne.symm h.1), splitList_append_sep ys h.2]

/-! ## Slicing, `partition` -/

/-- `s[i:j]` for non-negative bounds. -/
def slice (s : String) (i j : Nat) : String := ⟨(s.data.drop i).take (j - i)⟩

/-- The third part of `s.partition(sep)`: what follows the first `sep`, or `""`. -/
def partitionAfter (sep : Char) : List Char → List Char
  | [] => []
  | c :: cs => if c = sep then cs else partitionAfter sep cs

/-- The two parts of `s.rsplit(sep, 1)`, when `sep` occurs. -/
def rsplitOnce (sep : Char) (xs : List Char) : Option (List Char × List Char) :=
  (findList [sep] xs.reverse).map fun i =>
    ((xs.reverse.drop (i + 1)).reverse, (xs.reverse.take i).reverse)

/-! ## Ordering -/

/-- `a <= b` on `str`: code points compared from the left, a prefix first. -/
def leList : List Char → List Char → Bool
  | [], _ => true
  | _ :: _, [] => false
  | a :: as, b :: bs => a.toNat < b.toNat || (a == b && leList as bs)

/-- `a <= b` on `str`. -/
def le (a b : String) : Bool := leList a.data b.data

end Bumper.Py
