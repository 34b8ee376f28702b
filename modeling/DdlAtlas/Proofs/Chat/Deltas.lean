import Mathlib.Data.List.Forall2
import DdlAtlas.Proofs.Chat.Delta
import DdlAtlas.Proofs.Chat.Stream
import DdlAtlas.Proofs.Json.Marks

/-!
# A stream of deltas

Three line marks beyond ASCII need no escape between quotes and still end a line. A delta with one of them is
cut into lines that carry nothing, so that it is lost without a trace, and all deltas of a stream are received
just when none of them has such a mark.
-/

namespace DdlAtlas.Chat

open Json Text LineBuffer

def eventStream (br : Text) (events : List Text) : Text :=
  events.flatMap fun event => "data: " ++ event ++ br ++ br

def deltas (texts : List Text) : List Json :=
  (texts.filter (!·.isEmpty)).map .str

/-! ### The lines of one event -/

theorem oneLine_opening {p : Text} (h : Laid deltaOpening p) : OneLine ("data: " ++ p) :=
  oneLine_append.mpr ⟨by decide, oneLine_of_laid h (by decide)⟩

theorem plain_closing {q : Text} (h : Laid deltaClosing q) :
    (∀ c ∈ q, c ≠ '"' ∧ c ≠ '\\') ∧ OneLine q := by
  constructor
  · exact h.forall (by decide) (by decide) (by simp [deltaClosing])
  · exact oneLine_of_laid h (by decide)

theorem endsLine_twice {br : Text} (h : EndsLine br []) (more : Text) : EndsLine br (br ++ more) := by
  apply h.congr
  intro hlast
  rcases h with rfl | ⟨c, rfl, -⟩
  · exact absurd hlast (by decide)
  · obtain rfl : c = '\r' := by simpa using hlast
    simp

theorem lines_of_unmarked {t event br more : Text} (h : SpellsDelta t event) (ht : isMarked t = false)
    (hbr : EndsLine br []) (hmore : more.head? ≠ some '\n') :
    lines ("data: " ++ event ++ br ++ br ++ more) = ("data: " ++ event) :: [] :: lines more := by
  obtain ⟨s, hs, hlaid⟩ := h
  obtain ⟨p, q, hp, hq, rfl⟩ := hlaid.around
  have hquoted : OneLine ('"' :: (s ++ ['"'])) :=
    List.forall_mem_cons.mpr ⟨by decide, oneLine_append.mpr ⟨oneLine_of_escapes hs ht, by decide⟩⟩
  have hone : OneLine ("data: " ++ (p ++ ('"' :: (s ++ ['"']) ++ q))) := by
    rw [← List.append_assoc]
    exact oneLine_append.mpr ⟨oneLine_opening hp, oneLine_append.mpr ⟨hquoted, (plain_closing hq).2⟩⟩
  rw [List.append_assoc _ br more, lines_line hone (endsLine_twice hbr more),
    lines_endsLine (hbr.congr fun _ => hmore)]

theorem lines_of_tail [Depth] {t s q e more : Text} (h : Escapes t s) (hq : ∀ c ∈ q, c ≠ '"' ∧ c ≠ '\\')
    (hone : OneLine q) (he : EndsLine e more) :
    ∃ idle, lines (s ++ '"' :: q ++ e ++ more) = idle ++ lines more ∧ ∀ line ∈ idle, Idle line := by
  induction hn : s.length using Nat.strongRecOn generalizing t s with
  | ind n ih =>
    cases ht : isMarked t with
    | false =>
      have hline : OneLine (s ++ '"' :: q) :=
        oneLine_append.mpr ⟨oneLine_of_escapes h ht, List.forall_mem_cons.mpr ⟨by decide, hone⟩⟩
      exact ⟨[_], lines_line hline he, List.forall_mem_singleton.mpr (idle_end h hq)⟩
    | true =>
      obtain ⟨t₁, s₁, m, t₂, s₂, h₁, hone₁, hm, h₂, rfl⟩ := cut_at_mark h ht
      obtain ⟨idle, hlines, hidle⟩ := ih s₂.length (by simp at hn; omega) h₂ rfl
      refine ⟨s₁ :: idle, ?_, List.forall_mem_cons.mpr ⟨idle_of_escapes h₁, hidle⟩⟩
      have hcut := lines_line hone₁ (endsLine_of_isLineMark hm (s₂ ++ '"' :: q ++ e ++ more))
      rw [List.cons_append, ← hlines, ← hcut]
      simp

theorem lines_of_marked [Depth] {t event br more : Text} (h : SpellsDelta t event) (ht : isMarked t = true)
    (hbr : EndsLine br []) (hmore : more.head? ≠ some '\n') :
    ∃ idle, lines ("data: " ++ event ++ br ++ br ++ more) = idle ++ lines more ∧
      ∀ line ∈ idle, Idle line := by
  obtain ⟨s, hs, hlaid⟩ := h
  obtain ⟨p, q, hp, hq, rfl⟩ := hlaid.around
  obtain ⟨t₁, s₁, m, t₂, s₂, h₁, hone₁, hm, h₂, rfl⟩ := cut_at_mark hs ht
  obtain ⟨hplain, hone⟩ := plain_closing hq
  obtain ⟨idle, htail, hidle⟩ := lines_of_tail h₂ hplain hone (endsLine_twice hbr more)
  have hfirst : OneLine ("data: " ++ (p ++ '"' :: s₁)) := by
    rw [← List.append_assoc]
    exact oneLine_append.mpr ⟨oneLine_opening hp, List.forall_mem_cons.mpr ⟨by decide, hone₁⟩⟩
  have hcut := lines_line hfirst (endsLine_of_isLineMark hm (s₂ ++ '"' :: q ++ br ++ (br ++ more)))
  rw [htail, lines_endsLine (hbr.congr fun _ => hmore)] at hcut
  refine ⟨("data: " ++ (p ++ '"' :: s₁)) :: (idle ++ [[]]), by simpa using hcut, ?_⟩
  refine List.forall_mem_cons.mpr ⟨idle_opening hp h₁, List.forall_mem_append.mpr ⟨hidle, ?_⟩⟩
  exact List.forall_mem_singleton.mpr (idle_of_escapes .nil)

/-! ### The whole stream -/

theorem head?_eventStream (br : Text) (events : List Text) :
    (eventStream br events).head? ≠ some '\n' := by
  cases events with
  | nil => simp [eventStream]
  | cons event events =>
    rw [eventStream, List.flatMap_cons]
    simp

theorem carriedByLines_idle [Depth] {idle rest : List Text} (h : ∀ line ∈ idle, Idle line)
    (hend : (carriedByLines (idle ++ rest)).2 = none) :
    carriedByLines (idle ++ rest) = carriedByLines rest := by
  induction idle with
  | nil => rfl
  | cons line idle ih =>
    obtain ⟨hline, hidle⟩ := List.forall_mem_cons.mp h
    rw [List.cons_append, carriedByLines] at hend ⊢
    cases hcarried : carriedBy line with
    | error e => simp [hcarried] at hend
    | ok v? =>
      cases v? with
      | some v => exact absurd hcarried (hline v)
      | none =>
        rw [hcarried] at hend
        exact ih hidle hend

theorem carriedByLines_event [Depth] {t event : Text} (h : SpellsDelta t event) (rest : List Text) :
    carriedByLines (("data: " ++ event) :: [] :: rest) =
      (deltas [t] ++ (carriedByLines rest).1, (carriedByLines rest).2) := by
  have hblank : carriedByLines ([] :: rest) = carriedByLines rest := rfl
  rw [carriedByLines, carriedBy_spellsDelta h, hblank]
  cases t <;> rfl

theorem carriedByLines_stream [Depth] {br : Text} {texts events : List Text} (hbr : EndsLine br [])
    (h : List.Forall₂ SpellsDelta texts events) :
    ((carriedByLines (lines (eventStream br events))).2 = none →
      (carriedByLines (lines (eventStream br events))).1 = deltas (texts.filter (!isMarked ·))) ∧
    ((∀ t ∈ texts, isMarked t = false) → (carriedByLines (lines (eventStream br events))).2 = none) := by
  induction h with
  | nil => exact ⟨fun _ => rfl, fun _ => rfl⟩
  | @cons t event texts events hspells _ ih =>
    have hstream : eventStream br (event :: events) =
      "data: " ++ event ++ br ++ br ++ eventStream br events := List.flatMap_cons
    have hmore := head?_eventStream br events
    rw [hstream]
    cases ht : isMarked t with
    | false =>
      rw [lines_of_unmarked hspells ht hbr hmore, carriedByLines_event hspells]
      refine ⟨fun hend => ?_, fun hall => ih.2 (List.forall_mem_cons.mp hall).2⟩
      rw [ih.1 hend]
      cases t <;> simp [deltas, ht]
    | true =>
      obtain ⟨idle, hlines, hidle⟩ := lines_of_marked hspells ht hbr hmore
      rw [hlines]
      refine ⟨fun hend => ?_, fun hall => ?_⟩
      · have hskip := carriedByLines_idle hidle hend
        rw [hskip] at hend ⊢
        rw [ih.1 hend, List.filter_cons_of_neg (by simp [ht])]
      · exact absurd (hall t (List.mem_cons_self ..)) (by simp [ht])

theorem deltas_unmarked_iff (texts : List Text) :
    deltas (texts.filter (!isMarked ·)) = deltas texts ↔ ∀ t ∈ texts, isMarked t = false := by
  have hinj : ∀ t u : Text, Json.str t = .str u → t = u := fun _ _ h => Json.str.inj h
  have hfilter : deltas (texts.filter (!isMarked ·)) =
      ((texts.filter (!·.isEmpty)).filter (!isMarked ·)).map .str := by
    simp only [deltas, List.filter_filter, Bool.and_comm]
  rw [hfilter, deltas, List.map_inj_right hinj, List.filter_eq_self]
  constructor
  · intro h t ht
    cases t with
    | nil => rfl
    | cons c t => simpa using h (c :: t) (by simp [ht])
  · intro h t ht
    simpa using h t (List.mem_of_mem_filter ht)

/-- All texts of a stream of deltas are received, unchanged and in order, exactly if none of them has a line
mark. A text with a mark is lost, and no failure need tell of it: if there is none, the others are received. -/
theorem converse_deltas_iff [Depth] {s : ChatSettings} {system : Json} {messages : List Json} {request : Request}
    {br : Text} {texts events pieces : List Text} (hsends : Sends s system messages request)
    (hscheme : request.url.scheme ≠ []) (hbr : EndsLine br []) (hspells : List.Forall₂ SpellsDelta texts events)
    (hwhole : Text.concat pieces = eventStream br events) :
    ((converse s system messages (.answer 200 pieces)).received = deltas texts ∧
        (converse s system messages (.answer 200 pieces)).failure = none ↔
      ∀ t ∈ texts, isMarked t = false) ∧
    ((converse s system messages (.answer 200 pieces)).failure = none →
      (converse s system messages (.answer 200 pieces)).received = deltas (texts.filter (!isMarked ·))) := by
  obtain ⟨notes, hconverse⟩ := hsends.converse_eq
  obtain ⟨hreceived, hunmarked⟩ := carriedByLines_stream hbr hspells
  rw [hconverse, after_answer hscheme (by decide), hwhole]
  refine ⟨⟨fun ⟨hall, hend⟩ => ?_, fun hall => ?_⟩, hreceived⟩
  · exact (deltas_unmarked_iff texts).mp ((hreceived hend).symm.trans hall)
  · exact ⟨(hreceived (hunmarked hall)).trans ((deltas_unmarked_iff texts).mpr hall), hunmarked hall⟩

theorem escapes_hi : Escapes "hi" "hi" :=
  .cons (.raw (by decide)) (.cons (.raw (by decide)) .nil)

theorem converse_deltas_hi :
    (Sends keyedSettings .null [] keyedRequest ∧ keyedRequest.url.scheme ≠ [] ∧ EndsLine "\n" [] ∧
      List.Forall₂ SpellsDelta [("hi".toList)] [compactDelta "hi"]) ∧
    ((converse keyedSettings .null [] (.answer 200 [eventStream "\n" [compactDelta "hi"]])).received =
          deltas ["hi".toList] ∧
        (converse keyedSettings .null [] (.answer 200 [eventStream "\n" [compactDelta "hi"]])).failure = none ↔
      ∀ t ∈ ["hi".toList], isMarked t = false) ∧
    ((converse keyedSettings .null [] (.answer 200 [eventStream "\n" [compactDelta "hi"]])).failure = none →
      (converse keyedSettings .null [] (.answer 200 [eventStream "\n" [compactDelta "hi"]])).received =
        deltas (["hi".toList].filter (!isMarked ·))) := by
  have hscheme : keyedRequest.url.scheme ≠ [] := by decide
  have hbr : EndsLine "\n" [] := .inr ⟨'\n', rfl, by decide, by decide⟩
  have hspells : List.Forall₂ SpellsDelta ["hi".toList] [compactDelta "hi"] :=
    .cons (spellsDelta_compact escapes_hi) .nil
  exact ⟨⟨sends_keyedRequest, hscheme, hbr, hspells⟩,
    converse_deltas_iff sends_keyedRequest hscheme hbr hspells (List.append_nil _)⟩

def markedText : Text :=
  ['a', '\u2028', 'b']

theorem escapes_markedText : Escapes markedText markedText :=
  .cons (.raw (by decide)) (.cons (.raw (by decide)) (.cons (.raw (by decide)) .nil))

theorem converse_loses_delta :
    SpellsDelta markedText (compactDelta markedText) ∧
    (converse keyedSettings .null [] (.answer 200 [eventStream "\n" [compactDelta markedText]])).received = [] ∧
    (converse keyedSettings .null [] (.answer 200 [eventStream "\n" [compactDelta markedText]])).failure = none ∧
    deltas [markedText] ≠ [] := by
  obtain ⟨notes, hconverse⟩ := sends_keyedRequest.converse_eq
  have hlines : lines (eventStream "\n" [compactDelta markedText] ++ []) =
      ["data: " ++ (Text.concat deltaOpening ++ ['"', 'a']), ['b', '"', '\x7d', '\x7d'], []] := by
    decide
  have hfront : carriedBy ("data: " ++ (Text.concat deltaOpening ++ ['"', 'a'])) = .ok none :=
    carriedBy_of_open_text (laid_concat _) rfl
  have hlost : carriedByLines (lines (eventStream "\n" [compactDelta markedText] ++ [])) = ([], none) := by
    rw [hlines, carriedByLines, hfront]
    rfl
  have hscheme : keyedRequest.url.scheme ≠ [] := by decide
  rw [hconverse, after_answer hscheme (by decide)]
  have hwhole : Text.concat [eventStream "\n" [compactDelta markedText]] =
      eventStream "\n" [compactDelta markedText] ++ [] := rfl
  rw [hwhole, hlost]
  exact ⟨spellsDelta_compact escapes_markedText, rfl, rfl, by decide⟩

end DdlAtlas.Chat
