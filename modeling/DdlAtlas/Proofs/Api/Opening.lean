import DdlAtlas.Api.Reply
import DdlAtlas.Proofs.Schema.Parsed

/-!
# Opening a schema

What comes of opening a schema is decided by its name first, then by what its path leads to, and then by the
size of the file. Nothing fails behind that, since the bytes of every file make a text and every text
declares a schema.
-/

namespace DdlAtlas.Api

open Source

section Opening

variable (t : Tree) (s : SourceSettings) (name : Text)

def Fails (status : Nat) : Prop :=
  ∃ r, openSchema t s name = .error r ∧ r.status = status

def Refused : Prop :=
  (∃ e, resolve s.directory name s.extension = .error e) ∨
    ∃ path f, resolve s.directory name s.extension = .ok path ∧ t.find path = .file f ∧
      s.maxFileBytes < f.bytes.length

def Missing : Prop :=
  ∃ path, resolve s.directory name s.extension = .ok path ∧ ∀ f, t.find path ≠ .file f

end Opening

variable {t : Tree} {s : SourceSettings} {name : Text} {path : Path} {f : File}

theorem openSchema_of_error {e : SourceError}
    (h : Source.read t s.directory name s.maxFileBytes s.extension = .error e) :
    openSchema t s name = .error (.ofSourceError name e) := by
  rw [openSchema, extract, h]
  rfl

theorem openSchema_of_text {text : Text}
    (h : Source.read t s.directory name s.maxFileBytes s.extension = .ok text) :
    ∃ schema, Schema.parse text = .ok schema ∧ openSchema t s name = .ok (schema,
      Schema.notes text ++ [.extracted name schema.totals.tables schema.totals.policies]) := by
  obtain ⟨schema, hschema, -⟩ := Schema.parse_total text
  refine ⟨schema, hschema, ?_⟩
  rw [openSchema, extract, h]
  simp only [Except.bind, schemaOf, Schema.read_eq, hschema]
  rfl

theorem fails_of_resolve_error {e : SourceError} (h : resolve s.directory name s.extension = .error e) :
    Fails t s name 400 := by
  have hread : Source.read t s.directory name s.maxFileBytes s.extension = .error e := by
    rw [Source.read, h]
    rfl
  obtain rfl : SourceError.invalidName name = e := by
    unfold resolve at h
    split at h
    · simp at h
    · exact Except.error.inj h
  exact ⟨_, openSchema_of_error hread, rfl⟩

theorem read_of_resolve (h : resolve s.directory name s.extension = .ok path) :
    Source.read t s.directory name s.maxFileBytes s.extension = readPath t path s.maxFileBytes := by
  rw [Source.read, h]
  rfl

theorem fails_of_large (h : resolve s.directory name s.extension = .ok path)
    (hf : t.find path = .file f) (hlarge : s.maxFileBytes < f.bytes.length) : Fails t s name 400 := by
  have hread := read_of_resolve (t := t) h
  simp only [readPath, hf, gt_iff_lt, if_pos hlarge] at hread
  exact ⟨_, openSchema_of_error hread, rfl⟩

theorem fails_of_missing (h : resolve s.directory name s.extension = .ok path)
    (hfile : ∀ f, t.find path ≠ .file f) (hlong : t.find path ≠ .tooLong) : Fails t s name 404 := by
  have hread := read_of_resolve (t := t) h
  unfold readPath at hread
  split at hread
  · rename_i f hf
    exact absurd hf (hfile f)
  · rename_i hl
    exact absurd hl hlong
  · exact ⟨_, openSchema_of_error hread, rfl⟩
  · exact ⟨_, openSchema_of_error hread, rfl⟩

theorem openSchema_of_file (h : resolve s.directory name s.extension = .ok path)
    (hf : t.find path = .file f) (hsmall : f.bytes.length ≤ s.maxFileBytes) :
    ∃ schema, Schema.parse (decode f.bytes) = .ok schema ∧ openSchema t s name = .ok (schema,
      Schema.notes (decode f.bytes) ++
        [.extracted name schema.totals.tables schema.totals.policies]) := by
  have hread := read_of_resolve (t := t) h
  simp only [readPath, hf, gt_iff_lt, if_neg (Int.not_lt.mpr hsmall)] at hread
  exact openSchema_of_text hread

theorem Fails.unique {status status' : Nat} (h : Fails t s name status) (h' : Fails t s name status') :
    status = status' := by
  obtain ⟨r, hr, rfl⟩ := h
  obtain ⟨r', hr', rfl⟩ := h'
  rw [Except.error.inj (hr.symm.trans hr')]

def Opens (t : Tree) (s : SourceSettings) (name : Text) : Prop :=
  ∃ path f schema, resolve s.directory name s.extension = .ok path ∧ t.find path = .file f ∧
    Schema.parse (decode f.bytes) = .ok schema ∧ openSchema t s name = .ok (schema,
      Schema.notes (decode f.bytes) ++ [.extracted name schema.totals.tables schema.totals.policies])

theorem Opens.not_fails {status : Nat} (h : Opens t s name) : ¬Fails t s name status := by
  rintro ⟨r, hr, -⟩
  obtain ⟨_, _, _, -, -, -, hopen⟩ := h
  simp [hopen] at hr

theorem refused_or_missing_or_opens (t : Tree) (s : SourceSettings) (name : Text) :
    Refused t s name ∨ Missing t s name ∨ Opens t s name := by
  cases hresolve : resolve s.directory name s.extension with
  | error e => exact .inl (.inl ⟨e, hresolve⟩)
  | ok path =>
    by_cases hfile : ∃ f, t.find path = .file f
    · obtain ⟨f, hf⟩ := hfile
      by_cases hsmall : (f.bytes.length : Int) ≤ s.maxFileBytes
      · obtain ⟨schema, hschema, hopen⟩ := openSchema_of_file hresolve hf hsmall
        exact .inr (.inr ⟨path, f, schema, hresolve, hf, hschema, hopen⟩)
      · exact .inl (.inr ⟨path, f, hresolve, hf, Int.not_le.mp hsmall⟩)
    · exact .inr (.inl ⟨path, hresolve, fun f hf => hfile ⟨f, hf⟩⟩)

def oddFolder : Tree :=
  (Tree.ofWorking [['w']]).write (.ofText "db/odd.sql")
    ⟨Text.toBytes "CREATE TABLE t (id int);" ++ [0xff], ⟨0, 0⟩⟩

def oddSettings : SourceSettings :=
  ⟨"db", ".sql", 1024⟩

end DdlAtlas.Api
