import TypedPrefs.Command
import TypedPrefs.Expansion
import TypedPrefs.Proofs.Generated.Names

/-!
# What the front ends make of errors

A declaration is checked in one place, and several front ends make something of the result. The
generator gives code or the diagnostics, the expansion inside a program gives code or compile
errors, and the commands print and write files. They agree on which declarations fail, and on the
errors.
-/

namespace TypedPrefs

open Code Code.Token

/-! ## Compile errors -/

namespace Expansion

/-- The literals in compile errors, if the tokens are a row of compile errors and nothing else. -/
def compileErrorLiterals? : List Token → Option (List String)
  | [] => some []
  | .mark ':' true :: .mark ':' false :: .word "core" ::
      .mark ':' true :: .mark ':' false :: .word "compile_error" :: .mark '!' false ::
      .group .brace [.literal message] :: rest => (compileErrorLiterals? rest).map (message :: ·)
  | _ => none

/-- A compile error that is read back is the one that was written. -/
theorem compileErrorLiterals?_append (message : String) (rest : List Token) :
    compileErrorLiterals? (compileError message ++ rest) =
      (compileErrorLiterals? rest).map (Text.literal message :: ·) := rfl

/-- There is a compile error for each error among the diagnostics, and nothing else. -/
theorem compileErrorLiterals?_compileErrors [Parsers] (ds : List Diagnostic) :
    compileErrorLiterals? (compileErrors ds) =
      some ((ds.filter Diagnostic.isError).map fun d => Text.literal (errorText d)) := by
  unfold compileErrors
  induction ds.filter Diagnostic.isError with
  | nil => rfl
  | cons d rest ih =>
    rw [List.flatMap_cons, compileErrorLiterals?_append, ih]
    rfl

end Expansion

/-! ## Declarations with errors -/

section Errors

variable {source : String} {depth : Nat}

theorem generate_of_error (h : Diagnostic.anyError (check source depth) = true) :
    generate source depth = .error (.reported (check source depth)) := by
  unfold generate
  unfold check at h ⊢
  rcases hanalyze : analyze source depth with ⟨built, ds⟩
  rw [hanalyze] at h
  cases built with
  | none => rfl
  | some m => exact if_pos h

theorem countErrors_pos {ds : List Diagnostic} (h : Diagnostic.anyError ds = true) :
    0 < Diagnostic.countErrors ds := by
  obtain ⟨d, hd, herror⟩ := List.any_eq_true.mp h
  exact List.countP_pos_iff.mpr ⟨d, hd, herror⟩

/-- Reading a file of a tree leaves the tree as it is. -/
theorem run_read {tree : FileTree} {path content : String} (h : tree.read path = .ok content) :
    (FileTree.access.read path).run tree = (.ok content, tree) := by
  have hpair : (FileTree.access.read path).run tree =
      ((tree.read path).mapError FileFault.message, tree) := rfl
  rw [hpair, h]
  rfl

/-- What a command says last about a file with so many errors. -/
def errorLine (input : String) (errors : Nat) (ending : String) : String :=
  "Error: " ++ input ++ " has " ++ toString errors ++ ending ++ "\n"

theorem failed_without_causes (stdout stderr message : String) :
    Outcome.failed stdout stderr message [] =
      ⟨1, stdout, stderr ++ ("Error: " ++ message ++ "\n")⟩ := by
  simp [Outcome.failed, Outcome.causesText, String.append_assoc]

variable [Parsers]

theorem notGenerated_reported (input output : String) (ds : List Diagnostic) :
    Command.notGenerated input output (.reported ds) =
      ⟨1, "", String.join (ds.map fun d => d.display ++ "\n") ++
        errorLine input (Diagnostic.countErrors ds) " error(s), nothing written"⟩ := by
  rw [Command.notGenerated, failed_without_causes]
  simp only [errorLine, String.append_assoc]

theorem checked_of_error (h : Diagnostic.anyError (check source depth) = true) (input : String)
    (json : Bool) :
    Command.checked input source json depth =
      ⟨1, if json then Report.json (check source depth) ++ "\n"
          else Report.text (check source depth),
        errorLine input (Diagnostic.countErrors (check source depth)) " error(s)"⟩ := by
  rw [Command.checked, if_pos h, failed_without_causes]
  simp only [errorLine, String.append_assoc, String.empty_append]

variable [Formatter]

/-- Nothing is written if no code is generated. -/
theorem run_generate_of_error {tree : FileTree} {input : String} {fault : GenerationFault}
    (hread : tree.read input = .ok source) (hfault : generate source depth = .error fault)
    (output : String) (formatted : Bool) :
    (Command.run FileTree.access (.generate input output formatted) depth).run tree =
      (Command.notGenerated input output fault, tree) := by
  unfold Command.run
  rw [StateT.run_bind, run_read hread]
  simp only [bind, hfault]
  rfl

theorem run_check {tree : FileTree} {input : String} (hread : tree.read input = .ok source)
    (json : Bool) :
    (Command.run FileTree.access (.check input json) depth).run tree =
      (Command.checked input source json depth, tree) := by
  unfold Command.run
  rw [StateT.run_bind, run_read hread]
  rfl

end Errors

/-- All front ends fail for the diagnostics that are found in a declaration. -/
structure AllFailWith [Parsers] [Formatter] (source : String) (depth : Nat)
    (ds : List Diagnostic) : Prop where
  generator : generate source depth = .error (.reported ds)
  /-- The expansion is one compile error for each error, in the same order, and nothing else. -/
  expansion : ∃ tokens, Expansion.ofSource source depth = .ok tokens ∧
    Expansion.compileErrorLiterals? tokens = some ((ds.filter Diagnostic.isError).map fun d =>
      Text.literal (d.location.display ++ ": " ++ d.message.wording))
  /-- So the expansion is not empty. -/
  some_error : 0 < Diagnostic.countErrors ds
  /-- Whatever files there are, no file is changed. -/
  generateCommand (tree : FileTree) (input output : String) (formatted : Bool) :
    tree.read input = .ok source →
      (Command.run FileTree.access (.generate input output formatted) depth).run tree =
        (⟨1, "", String.join (ds.map fun d => d.display ++ "\n") ++
          errorLine input (Diagnostic.countErrors ds) " error(s), nothing written"⟩, tree)
  checkCommand (tree : FileTree) (input : String) (json : Bool) :
    tree.read input = .ok source →
      (Command.run FileTree.access (.check input json) depth).run tree =
        (⟨1, if json then Report.json ds ++ "\n" else Report.text ds,
          errorLine input (Diagnostic.countErrors ds) " error(s)"⟩, tree)

/-- **All front ends fail for the same errors.** If checking a declaration finds an error, they all
fail with what checking found, and report every error or the number of errors. If it finds none,
there is a class, and the generator does not fail for errors. This is so however deep walks over
supertypes go, and in whatever words the parsers refuse texts. -/
theorem front_ends_agree [Parsers] [Formatter] (source : String) (depth : Nat) :
    (Diagnostic.anyError (check source depth) = true →
      AllFailWith source depth (check source depth)) ∧
    (Diagnostic.anyError (check source depth) = false →
      (∃ m, (analyze source depth).1 = some m) ∧
        ∀ ds, generate source depth ≠ .error (.reported ds)) := by
  constructor
  · intro h
    have hgenerate := generate_of_error h
    refine ⟨hgenerate, ?_, countErrors_pos h, ?_, ?_⟩
    · refine ⟨Expansion.compileErrors (check source depth), ?_,
        Expansion.compileErrorLiterals?_compileErrors _⟩
      rw [Expansion.ofSource, hgenerate]
    · intro tree input output formatted hread
      rw [run_generate_of_error hread hgenerate, notGenerated_reported]
    · intro tree input json hread
      rw [run_check hread, checked_of_error h]
  · intro h
    obtain ⟨m, hm, -, hgenerate⟩ := generate_of_no_error h
    refine ⟨⟨m, hm⟩, fun ds hds => ?_⟩
    -- what can still stop the generator is a name that cannot be written
    rw [hgenerate] at hds
    cases hemit : Generated.emit m with
    | error name =>
      rw [hemit] at hds
      cases hds
    | ok tokens =>
      rw [hemit] at hds
      cases hds

/-- A declaration with a group that is empty, one that has no name that can be used, and one of a
name that was declared before. -/
def groupsSource : String :=
  "[preferences]\nname = \"Main\"\n" ++
    "groups = [\x7bname = \"view\"\x7d, \x7bname = \"two words\"\x7d, \x7bname = \"view\"\x7d]"

/-- Of three diagnostics two are errors, and so many are reported everywhere. -/
theorem front_ends_agree_groups :
    (check groupsSource).map Diagnostic.isError = [false, true, true] ∧
    @AllFailWith .plain .onLines groupsSource searchDepth (check groupsSource) ∧
    ∃ tree : FileTree, tree.read "main.toml" = .ok groupsSource := by
  have hchecked : (check groupsSource).map Diagnostic.isError = [false, true, true] := by
    decide +kernel
  have herror : Diagnostic.anyError (check groupsSource) = true := by
    decide +kernel
  exact ⟨hchecked, (@front_ends_agree .plain .onLines groupsSource searchDepth).1 herror,
    ⟨[(["main.toml"], .file groupsSource)], []⟩, by decide +kernel⟩

end TypedPrefs
