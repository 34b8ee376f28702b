import DdlAtlas.Command.Run
import DdlAtlas.Proofs.Files.Tree

/-!
# The context of a target

A command line that asks for the context of a target is read as that, whatever settings file it names and
whatever the target, as long as it does not look like an option. What is printed is the context of the schema
that is loaded. A name is looked up as a path first, and where it is none it stands for a file of the folder.
-/

namespace DdlAtlas.Command

def contextWords (config : Option Text) (target : Text) : List Text :=
  config.toList.map ("--config=".toList ++ ·) ++ ["context".toList, target]

theorem word_of_plain {t : Text} (known : List Key) (h : t.head? ≠ some '-') : Word.of known t = .plain := by
  have hstart : Text.startsWith t "-" = false := by
    cases t with
    | nil => rfl
    | cons c rest =>
      have hc : '-' ≠ c := by simpa [eq_comm] using h
      simp [Text.startsWith, Text.behind?, hc]
  have hseparator : t ≠ "--" := by
    rintro rfl
    exact h rfl
  simp only [Word.of, if_neg hseparator, hstart]
  rfl

theorem word_of_config (path : Text) :
    Word.of Topic.program.keys ("--config=" ++ path) = .option .config (some path) := by
  rfl

theorem ambiguity?_eq_none {topic : Topic} {words : List Text}
    (h : ∀ t ∈ words, ∀ names, Word.of topic.keys t ≠ .ambiguous names) : ambiguity? topic words = none := by
  rw [ambiguity?, List.findSome?_eq_none_iff]
  intro t ht
  have hword := h t ((List.takeWhile_sublist _).subset ht)
  split
  · rename_i names hnames
    exact absurd hnames (hword names)
  · rfl

theorem read_task {target : Text} (h : target.head? ≠ some '-') :
    Task.read "context" [target] = .ok (.context target, []) := by
  have hword := word_of_plain Topic.context.keys h
  have hclear : ambiguity? .context [target] = none :=
    ambiguity?_eq_none (List.forall_mem_singleton.mpr fun names => by simp [hword])
  have hwords : readTask .context [target] = .ok { Found.nothing with target := some target } := by
    rw [readTask, hclear]
    simp only [List.length_singleton, readWords, hword]
    rfl
  have htopic : Topic.tasks.find? (·.name == "context".toList) = some .context := by decide
  rw [Task.read, htopic]
  simp only [hwords]
  rfl

theorem readFrom_task (n : Nat) (f : Found) (hf : f.surplus = []) {target : Text} (h : target.head? ≠ some '-') :
    Invocation.readFrom (n + 1) f ["context".toList, target] = .ok ⟨f.config, f.verbose, .context target⟩ := by
  have hword : Word.of Topic.program.keys "context" = .plain := by decide
  rw [Invocation.readFrom]
  simp only [hword, read_task h, hf]
  rfl

theorem read_contextWords (config : Option Text) {target : Text} (h : target.head? ≠ some '-') :
    Invocation.read (contextWords config target) = .ok ⟨config, false, .context target⟩ := by
  have hplain := word_of_plain Topic.program.keys h
  have htask : Word.of Topic.program.keys "context" = .plain := by decide
  cases config with
  | none =>
    have hclear : ambiguity? .program ["context".toList, target] = none :=
      ambiguity?_eq_none (by simp only [List.forall_mem_cons, htask, hplain]; simp)
    change Invocation.read ["context".toList, target] = _
    rw [Invocation.read, hclear]
    exact readFrom_task 1 .nothing rfl h
  | some path =>
    have hclear : ambiguity? .program ["--config=".toList ++ path, "context".toList, target] = none :=
      ambiguity?_eq_none (by simp only [List.forall_mem_cons, word_of_config, htask, hplain]; simp)
    change Invocation.read ["--config=".toList ++ path, "context".toList, target] = _
    rw [Invocation.read, hclear]
    simp only [List.length_cons, List.length_nil]
    rw [Invocation.readFrom, word_of_config]
    exact readFrom_task 1 { Found.nothing with config := some path } rfl h

/-! ### The run -/

section Run

variable {e : Environment} {t : Tree} {config : Option Text} {s : Settings} {target : Text}

theorem run_contextWords (h : target.head? ≠ some '-') (now : Moment) (interrupted : Bool) :
    run e t now interrupted (contextWords config target) =
      Invocation.run e t now interrupted ⟨config, false, .context target⟩ := by
  rw [run, read_contextWords config h]

theorem run_of_loadTarget {schema : Schema} {notes : List Note} (hload : Settings.load e t config = .ok s)
    (h : target.head? ≠ some '-') (hschema : loadTarget t s.sources target = .ok (schema, notes)) (now : Moment)
    (interrupted : Bool) : Template.isSound s.logging.format = true ↔
      (run e t now interrupted (contextWords config target)).exit = 0 ∧
        (run e t now interrupted (contextWords config target)).printed = schema.context ++ "\n" := by
  have hprint : printTask t s (.context target) = .ok (line [schema.context], notes) := by
    rw [printTask, printTarget, hschema]
    rfl
  rw [run_contextWords h, Invocation.run]
  cases hsound : Template.isSound s.logging.format with
  | false => simp [settingsOf, hload, hsound, Outcome.stopped]
  | true => simp [settingsOf, hload, hsound, hprint, servicesOf, line, Text.concat]

theorem run_of_loadTarget_error {fault : SourceError} (hload : Settings.load e t config = .ok s)
    (h : target.head? ≠ some '-') (hschema : loadTarget t s.sources target = .error fault) (now : Moment)
    (interrupted : Bool) :
    (run e t now interrupted (contextWords config target)).exit = 1 ∧
      (run e t now interrupted (contextWords config target)).printed = [] := by
  have hprint : printTask t s (.context target) = .error (.source fault) := by
    rw [printTask, printTarget, hschema]
    rfl
  rw [run_contextWords h, Invocation.run]
  cases hsound : Template.isSound s.logging.format <;> simp [settingsOf, hload, hsound, hprint, Outcome.stopped]

end Run

end DdlAtlas.Command
