import DdlAtlas.Api.Route
import DdlAtlas.Proofs.Text.Blank
import DdlAtlas.Proofs.Text.Join
import DdlAtlas.Proofs.Text.Utf8
import Mathlib.Data.List.TakeDrop
import Mathlib.Data.List.TakeWhile

/-!
# Addresses of names

Every name has an address. All its bytes are escaped, and since escapes are read twice on the way to the
interface, all bytes of the escapes are escaped again. What is left is a text that the reading of addresses
leaves as it is, whatever the name.
-/

namespace DdlAtlas.Url

def escapedWhole (t : Text) : Text :=
  (Text.toBytes t).flatMap escapeByte

def isEscapeDigit (c : Char) : Bool :=
  ('0' ≤ c && c ≤ '9') || ('A' ≤ c && c ≤ 'F')

theorem escapeByte_eq (b : UInt8) : ∃ high low, escapeByte b = ['%', high, low] ∧
    hexByte? high low = some b ∧ isEscapeDigit high = true ∧ isEscapeDigit low = true := by
  have hall : ∀ n < 256,
      escapeByte (UInt8.ofNat n) =
          ['%', (escapeByte (UInt8.ofNat n)).getD 1 ' ', (escapeByte (UInt8.ofNat n)).getD 2 ' '] ∧
        hexByte? ((escapeByte (UInt8.ofNat n)).getD 1 ' ') ((escapeByte (UInt8.ofNat n)).getD 2 ' ') =
          some (UInt8.ofNat n) ∧
        isEscapeDigit ((escapeByte (UInt8.ofNat n)).getD 1 ' ') = true ∧
        isEscapeDigit ((escapeByte (UInt8.ofNat n)).getD 2 ' ') = true := by
    decide +kernel
  have hb := hall b.toNat b.toNat_lt
  rw [UInt8.ofNat_toNat] at hb
  exact ⟨_, _, hb⟩

/-! ### Escapes and reading them -/

def isPathChar (c : Char) : Bool :=
  isPlainExcept pathMarks c && c != '%'

theorem unescapedFrom_escapes (held bytes : List UInt8) (rest : Text) :
    unescapedFrom held (bytes.flatMap escapeByte ++ rest) = unescapedFrom (bytes.reverse ++ held) rest := by
  induction bytes generalizing held with
  | nil => rfl
  | cons b bytes ih =>
    obtain ⟨high, low, hb, hbyte, -, -⟩ := escapeByte_eq b
    rw [List.flatMap_cons, hb]
    simp only [List.cons_append, List.nil_append, unescapedFrom, hbyte]
    rw [ih]
    simp

theorem isPathChar_bounds {c : Char} (h : isPathChar c = true) : c ≠ '%' ∧ c.val < 128 ∧ c.toNat < 128 := by
  simp only [isPathChar, isPlainExcept, Bool.and_eq_true, decide_eq_true_eq, bne_iff_ne] at h
  have hhigh : c.val ≤ '~'.val := h.1.1.2
  have hsmall : c.val < 128 := UInt32.lt_of_le_of_lt hhigh (by decide)
  exact ⟨h.2, hsmall, UInt32.lt_iff_toNat_lt.mp hsmall⟩

theorem charBytes_of_isPathChar {c : Char} (h : isPathChar c = true) :
    Text.charBytes c = [UInt8.ofNat c.toNat] := by
  have hsmall := (isPathChar_bounds h).2.2
  simp [Text.charBytes, hsmall]

theorem unescapedFrom_char {c : Char} (h : isPathChar c = true) (held : List UInt8) (rest : Text) :
    unescapedFrom held (c :: rest) = unescapedFrom (UInt8.ofNat c.toNat :: held) rest := by
  obtain ⟨hescape, hsmall, -⟩ := isPathChar_bounds h
  rw [unescapedFrom, if_pos hsmall]
  exact fun _ _ _ hc => absurd hc hescape

theorem unescapedFrom_plain {front : Text} (h : ∀ c ∈ front, isPathChar c = true) (held : List UInt8)
    (rest : Text) :
    unescapedFrom held (front ++ rest) = unescapedFrom ((Text.toBytes front).reverse ++ held) rest := by
  induction front generalizing held with
  | nil => rfl
  | cons c front ih =>
    obtain ⟨hc, hfront⟩ := List.forall_mem_cons.mp h
    have hbytes : Text.toBytes (c :: front) = UInt8.ofNat c.toNat :: Text.toBytes front := by
      simp [Text.toBytes, charBytes_of_isPathChar hc]
    rw [List.cons_append, unescapedFrom_char hc, ih hfront, hbytes]
    simp

theorem unescaped_around {front back : Text} (hfront : ∀ c ∈ front, isPathChar c = true)
    (hback : ∀ c ∈ back, isPathChar c = true) (t : Text) :
    unescaped (front ++ (escapedWhole t ++ back)) = front ++ (t ++ back) := by
  have hall := unescapedFrom_plain hback ((Text.toBytes t).reverse ++ ((Text.toBytes front).reverse ++ [])) []
  have hbytes : ((Text.toBytes back).reverse ++
      ((Text.toBytes t).reverse ++ ((Text.toBytes front).reverse ++ []))).reverse =
      Text.toBytes (front ++ (t ++ back)) := by
    simp [Text.toBytes]
  rw [List.append_nil back] at hall
  rw [unescaped, unescapedFrom_plain hfront, escapedWhole, unescapedFrom_escapes, hall, unescapedFrom, hbytes,
    Text.ofBytes_toBytes]

theorem escaped_plain {front : Text} (h : ∀ c ∈ front, isPathChar c = true) (rest : Text) :
    escaped (isPlainExcept pathMarks) (front ++ rest) = front ++ escaped (isPlainExcept pathMarks) rest := by
  induction front with
  | nil => rfl
  | cons c front ih =>
    obtain ⟨hc, hfront⟩ := List.forall_mem_cons.mp h
    have hescape := (isPathChar_bounds hc).1
    have hsafe : isPlainExcept pathMarks c = true := (Bool.and_eq_true_iff.mp hc).1
    rw [List.cons_append, escaped, hsafe, Bool.or_true, if_pos rfl, ih hfront]
    · rfl
    · exact fun _ _ _ hc => absurd hc hescape

theorem escaped_escapes (safe : Char → Bool) (bytes : List UInt8) (rest : Text) :
    escaped safe (bytes.flatMap escapeByte ++ rest) = bytes.flatMap escapeByte ++ escaped safe rest := by
  induction bytes with
  | nil => rfl
  | cons b bytes ih =>
    obtain ⟨high, low, hb, hbyte, -, -⟩ := escapeByte_eq b
    rw [List.flatMap_cons, hb]
    simp only [List.cons_append, List.nil_append, escaped, hbyte, Option.isSome_some, if_true, ih]

/-! ### Paths that are left as they are -/

theorem cutAt_of_not_mem {mark : Char} {t : Text} (h : mark ∉ t) : cutAt mark t = (t, none) := by
  have hall : ∀ c ∈ t, (c != mark) = true := by
    intro c hc
    have : c ≠ mark := fun he => h (he ▸ hc)
    simpa using this
  have hspan : t.span (· != mark) = (t, []) := by
    rw [List.span_eq_takeWhile_dropWhile, List.takeWhile_eq_self_iff.mpr hall, List.dropWhile_eq_nil_iff.mpr hall]
  rw [cutAt, hspan]

theorem plainSegments_eq {segments : List Text} (h : ∀ s ∈ segments, s ≠ "." ∧ s ≠ "..") :
    plainSegments segments = segments := by
  have hdone : ∀ done : List Text, segments.foldl (fun done segment =>
      if segment = ".".toList then done
      else if segment = "..".toList then (if done = [[]] then done else done.dropLast)
      else done ++ [segment]) done = done ++ segments := by
    induction segments with
    | nil => simp
    | cons s segments ih =>
      obtain ⟨hs, hrest⟩ := List.forall_mem_cons.mp h
      intro done
      rw [List.foldl_cons, if_neg hs.1, if_neg hs.2, ih hrest]
      simp
  exact hdone []

structure IsSettled (path : Text) : Prop where
  fits : path.length ≤ lengthLimit
  rooted : ∃ c rest, path = '/' :: c :: rest ∧ c ≠ '/'
  plain : ∀ c ∈ path, isPlainExcept pathMarks c = true
  escaped : escaped (isPlainExcept pathMarks) path = path
  direct : plainPath path = path

variable {path : Text}

theorem IsSettled.not_mem (h : IsSettled path) {c : Char} (hc : isPlainExcept pathMarks c = false) : c ∉ path :=
  fun hmem => Bool.false_ne_true (hc.symm.trans (h.plain c hmem))

theorem IsSettled.printable (h : IsSettled path) : path.find? isUnprintable = none := by
  rw [List.find?_eq_none]
  intro c hc
  have hplain := h.plain c hc
  simp only [isPlainExcept, Bool.and_eq_true, decide_eq_true_eq] at hplain
  have hlow : ' '.val ≤ c.val := hplain.1.1
  have hhigh : c.val ≤ '~'.val := hplain.1.2
  have hdelete : c ≠ '\x7f' := by
    rintro rfl
    exact absurd hhigh (by decide)
  have hcontrol : ¬c.val < 32 := UInt32.not_lt.mpr hlow
  simpa [isUnprintable, hdelete] using hcontrol

theorem IsSettled.read_eq (h : IsSettled path) : read path = .ok { empty with path := path } := by
  obtain ⟨c, rest, rfl, hc⟩ := h.rooted
  have hdraft : Draft.ofText ('/' :: c :: rest) = ⟨[], [], '/' :: c :: rest, none, none⟩ := by
    have hscheme : cutScheme ('/' :: c :: rest) = ([], '/' :: c :: rest) := rfl
    have hslashes : Text.behind? "//" ('/' :: c :: rest) = none := by
      simp [Text.behind?, eq_comm, hc]
    simp only [Draft.ofText, cutAt_of_not_mem (h.not_mem (c := '#') (by decide)),
      cutAt_of_not_mem (h.not_mem (c := '?') (by decide)), hscheme, hslashes]
  have hpath : readPath false ('/' :: c :: rest) = .ok ('/' :: c :: rest) := by
    have hslashes : Text.startsWith ('/' :: c :: rest) "//" = false := by
      simp [Text.startsWith, Text.behind?, eq_comm, hc]
    have hcolon : Text.startsWith ('/' :: c :: rest) ":" = false := rfl
    rw [readPath, if_neg (by decide), hslashes, if_neg (by decide), hcolon, if_neg (by decide), h.escaped]
  have hrest : ∀ p : Text, ofDraft ⟨[], [], p, none, none⟩ =
      (readPath false p).bind fun p => .ok { empty with path := p } := fun _ => rfl
  rw [read, if_neg (Nat.not_lt.mpr h.fits), h.printable]
  simp only [hdraft, hrest, hpath]
  rfl

theorem IsSettled.joined_eq (h : IsSettled path) (base : Url) (hbase : base.target = ['/'])
    (hscheme : base.scheme ≠ []) :
    base.joined { empty with path := path } = .ok { base with path := path, query := none } := by
  obtain ⟨c, rest, rfl, hc⟩ := h.rooted
  have htarget : target { empty with path := '/' :: c :: rest } = '/' :: c :: rest := by
    simp [target, marked, empty]
  have hdrop : ('/' :: c :: rest).dropWhile (· == '/') = c :: rest := by
    simp [hc]
  have habsolute : isAbsolute { empty with path := '/' :: c :: rest } = false := rfl
  have hpath : readPath true ('/' :: c :: rest) = .ok ('/' :: c :: rest) := by
    rw [readPath, if_pos rfl, h.direct, h.escaped]
  have hfront : (!base.scheme.isEmpty || !base.authority.isEmpty) = true := by
    simp [hscheme]
  have hwhole : ['/'] ++ c :: rest = '/' :: c :: rest := rfl
  rw [joined, habsolute, if_neg (by decide), htarget, hdrop, hbase]
  simp only [List.getLast?_singleton, if_true, hwhole, cutAt_of_not_mem (h.not_mem (c := '?') (by decide)),
    hfront, hpath]
  rfl

theorem isPlainExcept_of_isEscapeDigit {c : Char} (h : isEscapeDigit c = true) :
    isPlainExcept pathMarks c = true ∧ c ≠ '/' := by
  have hcodes : (List.range' 48 23).all (fun n =>
      !isEscapeDigit (Char.ofNat n) || (isPlainExcept pathMarks (Char.ofNat n) && Char.ofNat n != '/')) = true := by
    decide
  have hrange : '0'.toNat ≤ c.toNat ∧ c.toNat ≤ 'F'.toNat := by
    have mono : ∀ a b : Char, a ≤ b → a.toNat ≤ b.toNat := fun _ _ hab => hab
    simp only [isEscapeDigit, Bool.or_eq_true, Bool.and_eq_true, decide_eq_true_eq] at h
    rcases h with ⟨hlow, hhigh⟩ | ⟨hlow, hhigh⟩
    · exact ⟨mono _ _ hlow, (mono _ _ hhigh).trans (by decide)⟩
    · exact ⟨Nat.le_trans (by decide) (mono _ _ hlow), mono _ _ hhigh⟩
  have hmem : c.toNat ∈ List.range' 48 23 := by
    simp only [Char.reduceToNat] at hrange
    exact List.mem_range'_1.mpr (by omega)
  have hc := Text.all_of_codes (P := fun c => !isEscapeDigit c || (isPlainExcept pathMarks c && c != '/')) hcodes hmem
  simpa [h] using hc

theorem mem_escapes {bytes : List UInt8} {c : Char} (h : c ∈ bytes.flatMap escapeByte) :
    isPlainExcept pathMarks c = true ∧ c ≠ '/' := by
  obtain ⟨b, -, hc⟩ := List.mem_flatMap.mp h
  obtain ⟨high, low, hb, -, hhigh, hlow⟩ := escapeByte_eq b
  rw [hb] at hc
  simp only [List.mem_cons, List.not_mem_nil, or_false] at hc
  rcases hc with rfl | rfl | rfl
  · decide
  · exact isPlainExcept_of_isEscapeDigit hhigh
  · exact isPlainExcept_of_isEscapeDigit hlow

theorem escapes_eq_nil_or_cons (bytes : List UInt8) :
    bytes.flatMap escapeByte = [] ∨ ∃ rest, bytes.flatMap escapeByte = '%' :: rest := by
  cases bytes with
  | nil => exact .inl rfl
  | cons b bytes =>
    obtain ⟨high, low, hb, -⟩ := escapeByte_eq b
    exact .inr ⟨_, by rw [List.flatMap_cons, hb]; rfl⟩

end DdlAtlas.Url

namespace DdlAtlas.Api

open Url

def databasesFront : Text := "/api/databases/"

def contextAddress (name : Text) : Text :=
  databasesFront ++ (escapedWhole (escapedWhole name) ++ "/context")

theorem isPathChar_databasesFront : ∀ c ∈ databasesFront, isPathChar c = true :=
  List.all_eq_true.mp (by decide)

theorem isPathChar_contextBack : ∀ c ∈ "/context".toList, isPathChar c = true :=
  List.all_eq_true.mp (by decide)

theorem pathOf_of_isSettled {path : Text} (h : IsSettled path) :
    pathOf path = .ok (unescaped (unescaped path)) := by
  have hplace : ∀ p : Text, placeFault? { base with path := p, query := none } = none := fun _ => rfl
  have hjoined := h.joined_eq base rfl (by decide)
  obtain ⟨c, rest, rfl, -⟩ := h.rooted
  rw [pathOf, h.read_eq]
  simp only [Except.bind, hjoined, hplace]
  rfl

theorem isSettled_contextAddress {name : Text} (h : (contextAddress name).length ≤ lengthLimit) :
    IsSettled (contextAddress name) where
  fits := h
  rooted := ⟨'a', _, rfl, by decide⟩
  plain := by
    have hplain : ∀ {c : Char}, isPathChar c = true → isPlainExcept pathMarks c = true :=
      fun hc => (Bool.and_eq_true_iff.mp hc).1
    exact List.forall_mem_append.mpr ⟨fun c hc => hplain (isPathChar_databasesFront c hc),
      List.forall_mem_append.mpr
        ⟨fun _ hc => (mem_escapes hc).1, fun c hc => hplain (isPathChar_contextBack c hc)⟩⟩
  escaped := by
    have hend := escaped_plain isPathChar_contextBack []
    rw [List.append_nil] at hend
    rw [contextAddress, escaped_plain isPathChar_databasesFront, escapedWhole, escaped_escapes, hend, escaped,
      List.append_nil]
  direct := by
    have hslash : '/' ∉ escapedWhole (escapedWhole name) := fun hc => (mem_escapes hc).2 rfl
    have hcells : Text.cells '/' (contextAddress name) =
        [[], "api".toList, "databases".toList, escapedWhole (escapedWhole name), "context".toList] := by
      have hfront : ∀ t : Text, Text.cells '/' (databasesFront ++ t) =
          [] :: "api".toList :: "databases".toList :: Text.cells '/' t := fun _ => rfl
      have hback : "/context".toList = '/' :: "context".toList := rfl
      rw [contextAddress, hfront, hback, Text.cells_append_cons hslash]
      rfl
    have hpoints : escapedWhole (escapedWhole name) ≠ ".".toList ∧
        escapedWhole (escapedWhole name) ≠ "..".toList := by
      rcases escapes_eq_nil_or_cons (Text.toBytes (escapedWhole name)) with h | ⟨rest, h⟩ <;>
        rw [escapedWhole, h] <;> exact ⟨nofun, nofun⟩
    have hjoin : ∀ w : Text, Text.join "/" [[], "api".toList, "databases".toList, w, "context".toList] =
        databasesFront ++ (w ++ "/context") := by
      intro w
      simp only [Text.join_cons_cons, List.append_assoc]
      rfl
    rw [plainPath, hcells, plainSegments_eq]
    · exact hjoin _
    · simp only [List.forall_mem_cons]
      exact ⟨by decide, by decide, by decide, hpoints, by decide, nofun⟩

theorem pathOf_contextAddress {name : Text} (h : (contextAddress name).length ≤ lengthLimit) :
    pathOf (contextAddress name) = .ok (databasesFront ++ (name ++ "/context")) := by
  rw [pathOf_of_isSettled (isSettled_contextAddress h), contextAddress,
    unescaped_around isPathChar_databasesFront isPathChar_contextBack,
    unescaped_around isPathChar_databasesFront isPathChar_contextBack]

theorem find?_contextAddress {name : Text} (hne : name ≠ []) (hslash : '/' ∉ name)
    (h : (contextAddress name).length ≤ lengthLimit) :
    Route.find? (contextAddress name) = .ok (some (.context name)) := by
  have hpath : Route.ofPath? (databasesFront ++ (name ++ "/context")) = some (.context name) := by
    have hmanual : manualPaths.any (endsAs (databasesFront ++ (name ++ "/context"))) = false := rfl
    have hcells : Text.cells '/' ("databases/".toList ++ (name ++ '/' :: "context".toList)) =
        ["databases".toList, name, "context".toList] := by
      have hfront : ∀ t : Text, Text.cells '/' ("databases/".toList ++ t) = "databases".toList :: Text.cells '/' t :=
        fun _ => rfl
      rw [hfront, Text.cells_append_cons hslash]
      rfl
    have hsegments : Route.ofSegments? ["databases".toList, name, "context".toList] = some (.context name) := by
      have hfirst : ¬("databases".toList ≠ "databases".toList ∨ name = []) := by simp [hne]
      rw [Route.ofSegments?, if_neg hfirst]
      rfl
    rw [← hsegments, ← hcells, Route.ofPath?, hmanual]
    rfl
  rw [Route.find?, pathOf_contextAddress h]
  simp only [Except.bind, Route.follow, hpath]

end DdlAtlas.Api
