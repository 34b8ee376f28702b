import DdlAtlas.Pattern.Basic

/-! Searching a text for a pattern: the leftmost position at which it matches, and all matches from
left to right, each sought behind the one before. -/

namespace DdlAtlas

structure Match where
  start : Cursor
  stop : Cursor

def Match.group? (m : Match) (label : Nat) : Option Text :=
  (m.stop.groups.find? (·.label == label)).map fun g => g.opened.take g.width

def Match.group (m : Match) (label : Nat) : Text :=
  (m.group? label).getD []

def Match.offset (m : Match) : Nat :=
  m.start.position

def Match.width (m : Match) : Nat :=
  m.stop.position - m.start.position

/-- What a step finds along a text, tried where a front admits it. The step tells how many characters
its find covers, and the walk goes on behind them, at the next character at least; the number in
front of the position counts those still to be passed. -/
def Cursor.harvest {α : Type} (front : Front) (find : Cursor → Option (α × Nat)) :
    Nat → Nat → Text → Text → List α
  | _, position, before, [] => ((find ⟨before, [], position, []⟩).map (·.1)).toList
  | covered + 1, position, before, c :: rest =>
    harvest front find covered (position + 1) (c :: before) rest
  | 0, position, before, c :: rest =>
    match if front.admits c then find ⟨before, c :: rest, position, []⟩ else none with
    | some (found, width) =>
      found :: harvest front find (width - 1) (position + 1) (c :: before) rest
    | none => harvest front find 0 (position + 1) (c :: before) rest

namespace Pattern

def matchAt? (p : Pattern) (c : Cursor) : Option Match :=
  (p.run some c).map (Match.mk c)

def match? (p : Pattern) (t : Text) : Option Match :=
  p.matchAt? (.start t)

def searchWith? (p : Pattern) (front : Front) : Nat → Text → Text → Option Match
  | position, before, [] => p.matchAt? ⟨before, [], position, []⟩
  | position, before, c :: rest =>
    match if front.admits c then p.matchAt? ⟨before, c :: rest, position, []⟩ else none with
    | some m => some m
    | none => p.searchWith? front (position + 1) (c :: before) rest

theorem searchWith?_front (p : Pattern) (position : Nat) (before rest : Text) :
    p.searchWith? p.front position before rest = p.searchWith? none position before rest := by
  induction rest generalizing position before with
  | nil => rfl
  | cons c rest ih =>
    simp only [searchWith?, ih]
    cases h : p.front.admits c with
    | true => rfl
    | false =>
      have missed : p.run some ⟨before, c :: rest, position, []⟩ = none := run_eq_none_of_front rfl h
      simp [matchAt?, missed, Front.admits]

def searchFrom? (p : Pattern) (position : Nat) (before rest : Text) : Option Match :=
  p.searchWith? p.front position before rest

def search? (p : Pattern) (t : Text) : Option Match :=
  p.searchFrom? 0 [] t

def occursIn (p : Pattern) (t : Text) : Bool :=
  (p.search? t).isSome

def occurrences (p : Pattern) (t : Text) : List Match :=
  Cursor.harvest p.front (fun c => (p.matchAt? c).map fun m => (m, m.width)) 0 0 [] t

def textBefore (p : Pattern) (t : Text) : Text :=
  match p.search? t with
  | some m => t.take m.offset
  | none => t

end Pattern

end DdlAtlas
