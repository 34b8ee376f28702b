import DdlAtlas.Text.Blank
import DdlAtlas.Text.Letter
import DdlAtlas.Text.Word

/-! Patterns over text, read by backtracking. A pattern is matched against a cursor and handed a
continuation that says what has to follow; of several ways to match, the first for which the
continuation succeeds is taken. Alternatives are tried in the order in which they are written, a
greedy run from its longest to its shortest form, a reluctant run the other way round; a solid run
is as long as it can be and gives nothing back. The front of a pattern tells by one character where
it cannot match, so that most places are passed by without a trial. -/

namespace DdlAtlas

structure Capture where
  label : Nat
  opened : Text
  width : Nat

/-- A reading position: the characters before it, nearest first, those still to be read, the number
of those before it, and the groups closed so far. -/
structure Cursor where
  before : Text
  rest : Text
  position : Nat
  groups : List Capture

/-- A test of the first character of what a pattern matches, where one is known. -/
abbrev Front := Option (Char → Bool)

namespace Front

def admits (f : Front) (c : Char) : Bool :=
  match f with
  | none => true
  | some test => test c

def or : Front → Front → Front
  | some f, some g => some fun c => f c || g c
  | _, _ => none

theorem admits_or {f g : Front} {c : Char} (h : f.admits c = true ∨ g.admits c = true) :
    (f.or g).admits c = true := by
  cases f <;> cases g <;> simp_all [or, admits]

end Front

/-- A shape of text. A run that is not solid stops only where the given front admits what follows, or
at the end of the text. -/
inductive Pattern
  | empty
  | one (test : Char → Bool)
  | seq (p q : Pattern)
  | alt (p q : Pattern)
  | solid (test : Char → Bool)
  | longest (test : Char → Bool) (stop : Front)
  | shortest (test : Char → Bool) (stop : Front)
  | many (p : Pattern)
  | group (label : Nat) (p : Pattern)
  | ahead (p : Pattern)
  | notBehind (width : Nat) (p : Pattern)
  | wordEdge
  | textStart
  | textEnd
  | lineEnd

namespace Cursor

def start (t : Text) : Cursor :=
  ⟨[], t, 0, []⟩

/-- The positions reached by stepping over characters that pass the test, nearest first, as far as
the front admits what follows. -/
def reach (test : Char → Bool) (stop : Front) (groups : List Capture) :
    Nat → Text → Text → List Cursor
  | position, before, [] => [⟨before, [], position, groups⟩]
  | position, before, c :: rest =>
    let further := if test c then reach test stop groups (position + 1) (c :: before) rest else []
    if stop.admits c then ⟨before, c :: rest, position, groups⟩ :: further else further

def firstAlong (test : Char → Bool) (stop : Front) (next : Cursor → Option Cursor)
    (groups : List Capture) : Nat → Text → Text → Option Cursor
  | position, before, [] => next ⟨before, [], position, groups⟩
  | position, before, c :: rest =>
    match if stop.admits c then next ⟨before, c :: rest, position, groups⟩ else none with
    | some found => some found
    | none =>
      if test c then firstAlong test stop next groups (position + 1) (c :: before) rest else none

theorem firstAlong_eq (test : Char → Bool) (stop : Front) (next : Cursor → Option Cursor)
    (groups : List Capture) (position : Nat) (before rest : Text) :
    firstAlong test stop next groups position before rest =
      (reach test stop groups position before rest).findSome? next := by
  induction rest generalizing position before with
  | nil => cases h : next ⟨before, [], position, groups⟩ <;> simp [firstAlong, reach, h]
  | cons c rest ih =>
    cases hs : stop.admits c <;> cases h : next ⟨before, c :: rest, position, groups⟩ <;>
      cases ht : test c <;> simp [firstAlong, reach, hs, h, ht, ih]

def farthest (test : Char → Bool) (stop : Front) (groups : List Capture) (others : List Cursor) :
    Nat → Text → Text → List Cursor
  | position, before, [] => ⟨before, [], position, groups⟩ :: others
  | position, before, c :: rest =>
    let others :=
      if stop.admits c then ⟨before, c :: rest, position, groups⟩ :: others else others
    if test c then farthest test stop groups others (position + 1) (c :: before) rest else others

theorem farthest_eq (test : Char → Bool) (stop : Front) (groups : List Capture)
    (others : List Cursor) (position : Nat) (before rest : Text) :
    farthest test stop groups others position before rest =
      (reach test stop groups position before rest).reverse ++ others := by
  induction rest generalizing others position before with
  | nil => simp [farthest, reach]
  | cons c rest ih =>
    cases hs : stop.admits c <;> cases ht : test c <;> simp [farthest, reach, hs, ht, ih]

def past (test : Char → Bool) (groups : List Capture) : Nat → Text → Text → Cursor
  | position, before, [] => ⟨before, [], position, groups⟩
  | position, before, c :: rest =>
    if test c then past test groups (position + 1) (c :: before) rest
    else ⟨before, c :: rest, position, groups⟩

def advance : Nat → Cursor → Cursor
  | 0, c => c
  | n + 1, ⟨before, x :: rest, position, groups⟩ =>
    advance n ⟨x :: before, rest, position + 1, groups⟩
  | _ + 1, c => c

def back? : Nat → Cursor → Option Cursor
  | 0, c => some c
  | n + 1, ⟨x :: before, rest, position, groups⟩ =>
    back? n ⟨before, x :: rest, position - 1, groups⟩
  | _ + 1, ⟨[], _, _, _⟩ => none

def textTo (c d : Cursor) : Text :=
  c.rest.take (d.position - c.position)

def atWordEdge (c : Cursor) : Bool :=
  c.before.head?.any Text.isWord != c.rest.head?.any Text.isWord

def atLineEnd (c : Cursor) : Bool :=
  c.rest.isEmpty || c.rest == ['\n']

def close (c : Cursor) (label : Nat) (opened : Cursor) : Cursor :=
  { c with groups := ⟨label, opened.rest, c.position - opened.position⟩ :: c.groups }

end Cursor

namespace Pattern

/-- Repetition of a step that reads at least one character, the longest repetition first; a text as
long as what is left to read bounds the number of rounds. -/
def rounds (step : (Cursor → Option Cursor) → Cursor → Option Cursor)
    (next : Cursor → Option Cursor) : Text → Cursor → Option Cursor
  | [], c => next c
  | _ :: bound, c => (step (rounds step next bound) c).orElse fun _ => next c

def run : Pattern → (Cursor → Option Cursor) → Cursor → Option Cursor
  | .empty, next, c => next c
  | .one test, next, c =>
    match c.rest with
    | [] => none
    | x :: rest => if test x then next ⟨x :: c.before, rest, c.position + 1, c.groups⟩ else none
  -- the second pattern is in the continuation of the first, so its failure tries the next way to match that one
  | .seq p q, next, c => p.run (q.run next) c
  | .alt p q, next, c => (p.run next c).orElse fun _ => q.run next c
  | .solid test, next, c => next (Cursor.past test c.groups c.position c.before c.rest)
  | .longest test stop, next, c =>
    (Cursor.farthest test stop c.groups [] c.position c.before c.rest).findSome? next
  | .shortest test stop, next, c =>
    Cursor.firstAlong test stop next c.groups c.position c.before c.rest
  | .many p, next, c => rounds p.run next c.rest c
  | .group label p, next, c => p.run (fun d => next (d.close label c)) c
  | .ahead p, next, c => if (p.run some c).isSome then next c else none
  | .notBehind width p, next, c =>
    if ((c.back? width).bind (p.run some)).isSome then none else next c
  | .wordEdge, next, c => if c.atWordEdge then next c else none
  | .textStart, next, c => if c.before.isEmpty then next c else none
  | .textEnd, next, c => if c.rest.isEmpty then next c else none
  | .lineEnd, next, c => if c.atLineEnd then next c else none

def frontBefore : Pattern → Front → Front
  | .one test, _ => some test
  | .seq p q, k => p.frontBefore (q.frontBefore k)
  | .alt p q, k => (p.frontBefore k).or (q.frontBefore k)
  | .solid test, k | .longest test _, k | .shortest test _, k => Front.or (some test) k
  | .many p, k => (p.frontBefore none).or k
  | .group _ p, k => p.frontBefore k
  | .textEnd, _ => some fun _ => false
  | .lineEnd, _ => some (· == '\n')
  | .empty, k | .ahead _, k | .notBehind _ _, k | .wordEdge, k | .textStart, k => k

def front (p : Pattern) : Front :=
  p.frontBefore none

theorem admits_frontBefore {p : Pattern} {k : Front} {next : Cursor → Option Cursor} {c : Cursor}
    {x : Char} {rest : Text} (hc : c.rest = x :: rest)
    (hk : ∀ e : Cursor, e.rest = c.rest → (next e).isSome = true → k.admits x = true)
    (h : (p.run next c).isSome = true) : (p.frontBefore k).admits x = true := by
  induction p generalizing k next c with
  | empty => exact hk c rfl h
  | one test =>
    cases ht : test x with
    | true => exact ht
    | false => simp [run, hc, ht] at h
  | seq p q ihp ihq =>
    exact ihp hc (fun e he hn => ihq (he.trans hc) (fun f hf => hk f (hf.trans he)) hn) h
  | alt p q ihp ihq =>
    apply Front.admits_or
    cases hp : p.run next c with
    | some d => exact .inl (ihp hc hk (by simp [hp]))
    | none => exact .inr (ihq hc hk (by simpa [run, hp] using h))
  | solid test =>
    apply Front.admits_or
    cases ht : test x with
    | true => exact .inl ht
    | false =>
      simp only [run, hc, Cursor.past, ht, Bool.false_eq_true, if_false] at h
      exact .inr (hk _ (by simp [hc]) h)
  | longest test stop =>
    apply Front.admits_or
    cases ht : test x with
    | true => exact .inl ht
    | false =>
      simp only [run, hc, Cursor.farthest, ht, Bool.false_eq_true, if_false] at h
      split at h
      · simp only [List.findSome?_cons, List.findSome?_nil] at h
        split at h
        · exact .inr (hk ⟨c.before, x :: rest, c.position, c.groups⟩ hc.symm (by simp [*]))
        · simp at h
      · simp at h
  | shortest test stop =>
    apply Front.admits_or
    cases ht : test x with
    | true => exact .inl ht
    | false =>
      simp only [run, hc, Cursor.firstAlong, ht, Bool.false_eq_true, if_false] at h
      split at h
      · rename_i found hf
        split at hf
        · exact .inr (hk ⟨c.before, x :: rest, c.position, c.groups⟩ hc.symm (by simp [hf]))
        · simp at hf
      · simp at h
  | many p ih =>
    apply Front.admits_or
    simp only [run, hc, rounds] at h
    cases hp : p.run (rounds p.run next rest) c with
    | some d =>
      have found : (p.run (rounds p.run next rest) c).isSome = true := by simp [hp]
      exact .inl (ih hc (fun _ _ _ => rfl) found)
    | none => exact .inr (hk c rfl (by simpa [hp] using h))
  | group label p ih => exact ih hc (fun e he => hk _ (by simp [Cursor.close, he])) h
  | ahead p _ =>
    simp only [run] at h
    split at h
    · exact hk c rfl h
    · simp at h
  | notBehind width p _ =>
    simp only [run] at h
    split at h
    · simp at h
    · exact hk c rfl h
  | wordEdge | textStart =>
    simp only [run] at h
    split at h
    · exact hk c rfl h
    · simp at h
  | textEnd => simp [run, hc] at h
  | lineEnd =>
    simp only [run, Cursor.atLineEnd, hc] at h
    split at h
    · simp_all [frontBefore, Front.admits]
    · simp at h

theorem run_eq_none_of_front {p : Pattern} {next : Cursor → Option Cursor} {c : Cursor} {x : Char}
    {rest : Text} (hc : c.rest = x :: rest) (h : p.front.admits x = false) :
    p.run next c = none := by
  cases hr : p.run next c with
  | none => rfl
  | some d =>
    have := admits_frontBefore (k := none) hc (fun _ _ _ => rfl) (by simp [hr] : (p.run next c).isSome)
    simp [front] at h
    simp [this] at h

def sequence : List Pattern → Pattern
  | [] => .empty
  | [p] => p
  | p :: rest => .seq p (sequence rest)

def choice : Pattern → List Pattern → Pattern
  | p, [] => p
  | p, q :: rest => .alt p (choice q rest)

def optional (p : Pattern) : Pattern :=
  .alt p .empty

def greedy (test : Char → Bool) : Pattern :=
  .longest test none

def reluctant (test : Char → Bool) : Pattern :=
  .shortest test none

def run1 (test : Char → Bool) : Pattern :=
  .seq (.one test) (greedy test)

def solid1 (test : Char → Bool) : Pattern :=
  .seq (.one test) (.solid test)

/-- A text letter by letter, ASCII letters without regard to case. -/
def word (t : Text) : Pattern :=
  sequence (t.map fun p => .one (Text.sameLetter p))

def exactly (t : Text) : Pattern :=
  sequence (t.map fun p => .one (· == p))

def gap : Pattern :=
  .solid Text.isBlank

def space : Pattern :=
  solid1 Text.isBlank

end Pattern

end DdlAtlas
